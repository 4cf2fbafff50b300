import LatencyDesk.Lib.Bits
import LatencyDesk.Lib.Word

/-!
# Input messages and their wire format

The model of the first half of `crates/input/src/lib.rs`: the pressed state of
keyboard and mouse as bit words, the input events, and the decoding of an
envelope with all its error paths.  `encodeEvent` is here because
`decode_event` calls it to check the bounds of an absolute motion.

Offsets of a slice are read with `readBe`.  Every reader is only called behind
a length check that covers its offset, as in the source.
-/

namespace LatencyDesk.Input

open Lib Except

/-- `MAGIC`. -/
def magic : List UInt8 := asciiBytes "LDIN"

/-- `VERSION`. -/
def version : UInt8 := 1

/-- `HEADER_LEN`. -/
def headerLen : Nat := 24

/-- `MAX_MESSAGE_BYTES`. -/
def maxMessageBytes : Nat := 256

/-- `MAX_KEY_CODE`. -/
def maxKeyCode : UInt16 := 511

/-- `KEY_WORDS`. -/
abbrev keyWordCount : Nat := 8

/-- `INPUT_FLAG_ACK_REQUESTED`. -/
def inputFlagAckRequested : UInt32 := 1

inductive InputError where
  | magic
  | version (value : UInt8)
  | reserved
  | payloadLength
  | eventKind (kind : UInt8)
  | boolean (value : UInt8)
  | key (code : UInt16)
  | button (button : UInt8)
  | coordinate
deriving DecidableEq

def readBe (bytes : List UInt8) (offset length : Nat) : Nat :=
  beNat ((bytes.drop offset).take length)

def readU16 (bytes : List UInt8) (offset : Nat) : UInt16 := .ofNat (readBe bytes offset 2)

def readI16 (bytes : List UInt8) (offset : Nat) : Int16 := (readU16 bytes offset).toInt16

def readU32 (bytes : List UInt8) (offset : Nat) : UInt32 := .ofNat (readBe bytes offset 4)

def readI32 (bytes : List UInt8) (offset : Nat) : Int32 := (readU32 bytes offset).toInt32

def readU64 (bytes : List UInt8) (offset : Nat) : UInt64 := .ofNat (readBe bytes offset 8)

/-! ## The pressed state -/

/-- Which keys and buttons are pressed, one bit each. -/
structure InputState where
  keyWords : List.Vector (BitVec 64) keyWordCount
  buttons : BitVec 16
deriving DecidableEq

def validateKey (code : UInt16) : Except InputError Unit :=
  if maxKeyCode < code then .error (.key code) else .ok ()

/-- The word of a valid key code. -/
def keyWord (code : UInt16) (h : code ≤ maxKeyCode) : Fin keyWordCount :=
  ⟨code.toNat / 64, by
    have hle : code.toNat ≤ 511 := UInt16.le_iff_toNat_le.1 h
    show code.toNat / 64 < 8
    omega⟩

namespace InputState

/-- `InputState::default`. -/
def default : InputState := { keyWords := List.Vector.replicate keyWordCount 0, buttons := 0 }

/-- `set_key`.  A code out of range changes nothing. -/
def setKey (state : InputState) (code : UInt16) (pressed : Bool) : Except InputError InputState :=
  if h : code ≤ maxKeyCode then
    .ok
      { state with
        keyWords := state.keyWords.set (keyWord code h)
          (putBit (state.keyWords.get (keyWord code h)) (code.toNat % 64) pressed) }
  else
    .error (.key code)

def keyPressed (state : InputState) (code : UInt16) : Bool :=
  if h : code ≤ maxKeyCode then
    hasBit (state.keyWords.get (keyWord code h)) (code.toNat % 64)
  else
    false

/-- `set_button`.  A button out of range changes nothing. -/
def setButton (state : InputState) (button : UInt8) (pressed : Bool) :
    Except InputError InputState :=
  if 16 ≤ button then
    .error (.button button)
  else
    .ok { state with buttons := putBit state.buttons button.toNat pressed }

def buttonPressed (state : InputState) (button : UInt8) : Bool :=
  decide (button < 16) && hasBit state.buttons button.toNat

def encodeInto (state : InputState) : List UInt8 :=
  state.keyWords.toList.flatMap (fun word => beBytes 8 word.toNat) ++ beBytes 2 state.buttons.toNat

def decode (bytes : List UInt8) : Except InputError InputState :=
  if bytes.length ≠ keyWordCount * 8 + 2 then
    .error .payloadLength
  else
    .ok
      { keyWords := List.Vector.ofFn fun index => (readU64 bytes (index.val * 8)).toBitVec
        buttons := (readU16 bytes (keyWordCount * 8)).toBitVec }

end InputState

/-! ## Events and messages -/

inductive InputEvent where
  | key (code : UInt16) (pressed : Bool)
  | pointerButton (button : UInt8) (pressed : Bool)
  | pointerMotionRelative (dx dy : Int32)
  | pointerMotionAbsolute (x y width height : UInt32)
  | wheel (horizontal vertical : Int16)
  | snapshot (state : InputState)
  | releaseAll
deriving DecidableEq

/-- An event with its epoch and sequence number. -/
structure InputMessage where
  sessionEpoch : UInt32
  sequence : UInt64
  event : InputEvent
deriving DecidableEq

structure DecodedInputEnvelope where
  message : InputMessage
  ackRequested : Bool
deriving DecidableEq

/-- The kind of an event and its payload. -/
def encodeEvent : InputEvent → Except InputError (UInt8 × List UInt8)
  | .key code pressed =>
    match validateKey code with
    | .error e => .error e
    | .ok () => .ok (1, beBytes 2 code.toNat ++ [pressed.toUInt8])
  | .pointerButton button pressed =>
    if 16 ≤ button then .error (.button button) else .ok (2, [button, pressed.toUInt8])
  | .pointerMotionRelative dx dy =>
    .ok (3, beBytes 4 dx.toUInt32.toNat ++ beBytes 4 dy.toUInt32.toNat)
  | .pointerMotionAbsolute x y width height =>
    if width = 0 ∨ height = 0 ∨ width ≤ x ∨ height ≤ y then
      .error .coordinate
    else
      .ok (4, beBytes 4 x.toNat ++ beBytes 4 y.toNat ++ beBytes 4 width.toNat ++
        beBytes 4 height.toNat)
  | .wheel horizontal vertical =>
    .ok (5, beBytes 2 horizontal.toUInt16.toNat ++ beBytes 2 vertical.toUInt16.toNat)
  | .snapshot state => .ok (6, state.encodeInto)
  | .releaseAll => .ok (7, [])

def decodeBool (value : UInt8) : Except InputError Bool :=
  if value = 0 then .ok false else if value = 1 then .ok true else .error (.boolean value)

/-- A known kind with a payload of the wrong length is answered like an
unknown kind, except for a snapshot. -/
def decodeEvent (kind : UInt8) (payload : List UInt8) : Except InputError InputEvent :=
  if kind = 1 ∧ payload.length = 3 then
    match validateKey (readU16 payload 0) with
    | .error e => .error e
    | .ok () =>
      match decodeBool (payload.getD 2 0) with
      | .error e => .error e
      | .ok pressed => .ok (.key (readU16 payload 0) pressed)
  else if kind = 2 ∧ payload.length = 2 then
    if 16 ≤ payload.getD 0 0 then
      .error (.button (payload.getD 0 0))
    else
      match decodeBool (payload.getD 1 0) with
      | .error e => .error e
      | .ok pressed => .ok (.pointerButton (payload.getD 0 0) pressed)
  else if kind = 3 ∧ payload.length = 8 then
    .ok (.pointerMotionRelative (readI32 payload 0) (readI32 payload 4))
  else if kind = 4 ∧ payload.length = 16 then
    let event : InputEvent := .pointerMotionAbsolute (readU32 payload 0) (readU32 payload 4)
      (readU32 payload 8) (readU32 payload 12)
    match encodeEvent event with
    | .error e => .error e
    | .ok _ => .ok event
  else if kind = 5 ∧ payload.length = 4 then
    .ok (.wheel (readI16 payload 0) (readI16 payload 2))
  else if kind = 6 then
    match InputState.decode payload with
    | .error e => .error e
    | .ok state => .ok (.snapshot state)
  else if kind = 7 ∧ payload.length = 0 then
    .ok .releaseAll
  else
    .error (.eventKind kind)

/-- Checks the header and decodes the event. -/
def decodeEnvelope (bytes : List UInt8) : Except InputError DecodedInputEnvelope :=
  if bytes.length < headerLen ∨ maxMessageBytes < bytes.length then
    .error .payloadLength
  else if bytes.take 4 ≠ magic then
    .error .magic
  else if bytes.getD 4 0 ≠ version then
    .error (.version (bytes.getD 4 0))
  else
    let kind := bytes.getD 5 0
    let payloadLen := (readU16 bytes 6).toNat
    let flags := readU32 bytes 20
    if flags &&& ~~~inputFlagAckRequested ≠ 0 then
      .error .reserved
    else if headerLen + payloadLen ≠ bytes.length then
      .error .payloadLength
    else
      match decodeEvent kind (bytes.drop headerLen) with
      | .error e => .error e
      | .ok event =>
        .ok
          { message :=
              { sessionEpoch := readU32 bytes 8
                sequence := readU64 bytes 12
                event := event }
            ackRequested := decide (flags &&& inputFlagAckRequested ≠ 0) }

/-! ## What decoding guarantees -/

/-- The key code or the button of the event is in range. -/
def InputEvent.InRange : InputEvent → Prop
  | .key code _ => code ≤ maxKeyCode
  | .pointerButton button _ => button < 16
  | _ => True

theorem validateKey_eq_ok {code : UInt16} (h : validateKey code = .ok ()) :
    code ≤ maxKeyCode := by
  unfold validateKey at h
  split_ifs at h with hlt
  exact UInt16.not_lt.1 hlt

theorem inRange_of_decodeEvent {kind : UInt8} {payload : List UInt8} {event : InputEvent}
    (h : decodeEvent kind payload = .ok event) : event.InRange := by
  unfold decodeEvent at h
  split_ifs at h with hkey hbutton hrange
  · split at h
    · simp at h
    rename_i hval
    split at h
    · simp at h
    · obtain rfl := ok.inj h
      exact validateKey_eq_ok hval
  · split at h
    · simp at h
    · obtain rfl := ok.inj h
      exact UInt8.not_le.1 hrange
  · obtain rfl := ok.inj h
    trivial
  · dsimp only at h
    split at h
    · simp at h
    · obtain rfl := ok.inj h
      trivial
  · obtain rfl := ok.inj h
    trivial
  · split at h
    · simp at h
    · obtain rfl := ok.inj h
      trivial
  · obtain rfl := ok.inj h
    trivial

/-- A decoded message names a key or a button that exists. -/
theorem inRange_of_decodeEnvelope {bytes : List UInt8} {envelope : DecodedInputEnvelope}
    (h : decodeEnvelope bytes = .ok envelope) : envelope.message.event.InRange := by
  unfold decodeEnvelope at h
  dsimp only at h
  split_ifs at h
  split at h
  · simp at h
  rename_i event hev
  obtain rfl := ok.inj h
  exact inRange_of_decodeEvent hev

end LatencyDesk.Input
