import LatencyDesk.Lib.Slice
import LatencyDesk.Protocol.Media
import LatencyDesk.TurnRelay.Address
import Mathlib.Data.Vector.Zip

/-!
# TURN messages

The codec of `crates/turn-relay/src/wire.rs`.  A message is a header of 20 bytes
and attributes, each with a kind, a length, a value and zero bytes up to a
multiple of four.  `encode_with_integrity` appends one more attribute, the HMAC
of everything before it, and `verify_integrity` checks it before it decodes the
message.

The keyed hash is a parameter of the two functions.  `usize` has 64 bits, so
the sums of a cursor and a length of 16 bits that the source checks are plain
sums.  The two loops over the attributes end because an attribute takes at
least four bytes.
-/

namespace LatencyDesk.TurnRelay

open Lib Protocol

def magicCookie : Bytes 4 := ⟨[0x21, 0x12, 0xA4, 0x42], rfl⟩

/-- `(MAGIC_COOKIE >> 16) as u16`. -/
def portMask : UInt16 := 0x2112

def maxDatagramBytes : Nat := 4 * 1024

def channelMin : UInt16 := 0x4000

def channelMax : UInt16 := 0x4fff

def headerLen : Nat := 20

def attributeHeaderLen : Nat := 4

/-! The kinds of attributes. -/

namespace AttributeKind

def messageIntegritySha256 : UInt16 := 0x001c

def username : UInt16 := 0x0006

def errorCode : UInt16 := 0x0009

def channelNumber : UInt16 := 0x000c

def lifetime : UInt16 := 0x000d

def xorPeerAddress : UInt16 := 0x0012

def data : UInt16 := 0x0013

def realm : UInt16 := 0x0014

def nonce : UInt16 := 0x0015

def xorRelayedAddress : UInt16 := 0x0016

def requestedTransport : UInt16 := 0x0019

def xorMappedAddress : UInt16 := 0x0020

end AttributeKind

inductive Class where
  | request
  | indication
  | success
  | error
deriving DecidableEq

inductive Method where
  | allocate
  | refresh
  | createPermission
  | channelBind
  | send
  | data
deriving DecidableEq

structure Header where
  kind : Class
  method : Method
  transactionId : Bytes 12
deriving DecidableEq

inductive Attribute where
  | username (value : List UInt8)
  | realm (value : List UInt8)
  | nonce (value : List UInt8)
  | messageIntegritySha256 (value : Bytes 32)
  | requestedTransport (protocol : UInt8)
  | lifetime (seconds : UInt32)
  | xorPeerAddress (address : SocketAddr)
  | xorRelayedAddress (address : SocketAddr)
  | xorMappedAddress (address : SocketAddr)
  | channelNumber (channel : UInt16)
  | data (value : List UInt8)
  | errorCode (code : UInt16) (reason : String)
deriving DecidableEq

structure Message where
  header : Header
  attributes : List Attribute
deriving DecidableEq

/-- A message whose integrity was verified. -/
structure VerifiedMessage where
  message : Message
deriving DecidableEq

inductive WireError where
  | tooLarge
  | truncated
  | invalidHeader
  | invalidLength
  | invalidPadding
  | unknownRequired (kind : UInt16)
  | duplicate (kind : UInt16)
  | invalidAttribute
  | invalidTransaction
  | invalidMethodClass
  | invalidChannel
  | integrityMissing
  | integrityPosition
  | integrityMismatch
deriving DecidableEq

/-! ## Headers -/

def methodCode : Method → UInt16
  | .allocate => 0x003
  | .refresh => 0x004
  | .send => 0x006
  | .data => 0x007
  | .createPermission => 0x008
  | .channelBind => 0x009

def decodeMethod (value : UInt16) : Option Method :=
  if value = 0x003 then some .allocate
  else if value = 0x004 then some .refresh
  else if value = 0x006 then some .send
  else if value = 0x007 then some .data
  else if value = 0x008 then some .createPermission
  else if value = 0x009 then some .channelBind
  else none

def classBits : Class → UInt16
  | .request => 0
  | .indication => 1
  | .success => 2
  | .error => 3

def encodeType (kind : Class) (method : UInt16) : UInt16 :=
  let bits := classBits kind
  ((method &&& (0x0f80 : UInt16)) <<< (2 : UInt16)) |||
    ((method &&& (0x0070 : UInt16)) <<< (1 : UInt16)) ||| (method &&& (0x000f : UInt16)) |||
    ((bits &&& (1 : UInt16)) <<< (4 : UInt16)) ||| ((bits &&& (2 : UInt16)) <<< (7 : UInt16))

def decodeType (value : UInt16) : Option (Class × UInt16) :=
  if value &&& 0xc000 ≠ 0 then
    none
  else
    let method := ((value >>> (2 : UInt16)) &&& (0x0f80 : UInt16)) |||
      ((value >>> (1 : UInt16)) &&& (0x0070 : UInt16)) ||| (value &&& (0x000f : UInt16))
    let bits := ((value >>> (4 : UInt16)) &&& (1 : UInt16)) |||
      ((value >>> (7 : UInt16)) &&& (2 : UInt16))
    if bits = 0 then some (.request, method)
    else if bits = 1 then some (.indication, method)
    else if bits = 2 then some (.success, method)
    else if bits = 3 then some (.error, method)
    else none

/-- The methods that a class can have. -/
def methodAllowed : Class → Method → Bool
  | .indication, method => method = .send ∨ method = .data
  | _, method => method = .allocate ∨ method = .refresh ∨ method = .createPermission ∨
      method = .channelBind

/-- A transaction id, and a method that the class allows. -/
def validateHeader (header : Header) : Except WireError Unit :=
  if header.transactionId = .replicate 12 0 then
    .error .invalidTransaction
  else if !methodAllowed header.kind header.method then
    .error .invalidMethodClass
  else
    .ok ()

def decodeHeader (input : List UInt8) : Except WireError (Header × Nat) :=
  if maxDatagramBytes < input.length then
    .error .tooLarge
  else if input.length < headerLen then
    .error .truncated
  else
    match decodeType (readU16 input 0) with
    | none => .error .invalidHeader
    | some (kind, rawMethod) =>
      match decodeMethod rawMethod with
      | none => .error .invalidMethodClass
      | some method =>
        let bodyLen := (readU16 input 2).toNat
        if slice input 4 4 ≠ magicCookie.toList ∨ bodyLen % 4 ≠ 0 ∨
            headerLen + bodyLen ≠ input.length then
          .error .invalidLength
        else
          let header : Header :=
            { kind := kind, method := method, transactionId := readBytes 12 input 8 }
          match validateHeader header with
          | .error e => .error e
          | .ok () => .ok (header, bodyLen)

/-! ## Attributes -/

/-- The bytes that fill a value up to a multiple of four. -/
def paddingLen (length : Nat) : Nat := (4 - length % 4) % 4

/-- An attribute with its padding. -/
def appendAttribute (output : List UInt8) (kind : UInt16) (value : List UInt8) :
    Except WireError (List UInt8) :=
  if 65535 < value.length then
    .error .tooLarge
  else
    let padding := paddingLen value.length
    if maxDatagramBytes < output.length + attributeHeaderLen + value.length + padding then
      .error .tooLarge
    else
      .ok (output ++ (beBytes 2 kind.toNat ++ (beBytes 2 value.length ++
        (value ++ List.replicate padding 0))))

/-- `output[2..4].copy_from_slice(&(length as u16).to_be_bytes())`. -/
def setLength (output : List UInt8) (length : Nat) : List UInt8 :=
  output.take 2 ++ (beBytes 2 length ++ output.drop 4)

def finishLength (output : List UInt8) : Except WireError (List UInt8) :=
  if output.length < headerLen ∨ maxDatagramBytes < output.length then
    .error .tooLarge
  else
    let bodyLen := output.length - headerLen
    if 65535 < bodyLen then .error .tooLarge else .ok (setLength output bodyLen)

/-- The next attribute and its end. -/
def readRawAttribute (input : List UInt8) (cursor stop : Nat) :
    Except WireError (UInt16 × List UInt8 × Nat) :=
  let valueStart := cursor + attributeHeaderLen
  if stop < valueStart then
    .error .truncated
  else
    let kind := readU16 input cursor
    let valueLen := (readU16 input (cursor + 2)).toNat
    let valueEnd := valueStart + valueLen
    if stop < valueEnd then
      .error .truncated
    else
      let next := valueEnd + paddingLen valueLen
      if stop < next then .error .invalidPadding
      else .ok (kind, slice input valueStart valueLen, next)

def addressMask (transactionId : Bytes 12) : Bytes 16 :=
  ⟨magicCookie.toList ++ transactionId.toList, by simp⟩

/-- `octets[index] ^ mask[index]` for every index. -/
def maskOctets {n : Nat} (octets mask : Bytes n) : Bytes n :=
  List.Vector.zipWith (· ^^^ ·) octets mask

def encodeXorAddress (address : SocketAddr) (transactionId : Bytes 12) : List UInt8 :=
  let port := beBytes 2 (address.port ^^^ portMask).toNat
  match address.ip with
  | .v4 octets => 0 :: 0x01 :: (port ++ (maskOctets octets magicCookie).toList)
  | .v6 octets => 0 :: 0x02 :: (port ++ (maskOctets octets (addressMask transactionId)).toList)

/-- The address under the mask. -/
def decodeXorAddress (value : List UInt8) (transactionId : Bytes 12) :
    Except WireError SocketAddr :=
  if value.length < 4 then
    .error .invalidAttribute
  else
    let port := readU16 value 2 ^^^ portMask
    if port = 0 then
      .error .invalidAttribute
    else if value.getD 1 0 = 0x01 ∧ value.length = 8 then
      .ok (.new (.v4 (maskOctets (readBytes 4 value 4) magicCookie)) port)
    else if value.getD 1 0 = 0x02 ∧ value.length = 20 then
      .ok (.new (.v6 (maskOctets (readBytes 16 value 4) (addressMask transactionId))) port)
    else
      .error .invalidAttribute

/-- UTF-8 text of a bounded length. -/
def boundedText (value : List UInt8) (min max : Nat) : Except WireError (List UInt8) :=
  if ¬(min ≤ value.length ∧ value.length ≤ max) ∨ (fromUtf8 value).isNone then
    .error .invalidAttribute
  else
    .ok value

/-- The kind of an attribute with its bounded text. -/
def textAttribute (kind : UInt16) (value : List UInt8) (max : Nat) :
    Except WireError (UInt16 × List UInt8) :=
  match boundedText value 1 max with
  | .error e => .error e
  | .ok value => .ok (kind, value)

open AttributeKind

def encodeAttribute (item : Attribute) (transactionId : Bytes 12) :
    Except WireError (UInt16 × List UInt8) :=
  match item with
  | .username value => textAttribute username value 512
  | .realm value => textAttribute realm value 127
  | .nonce value => textAttribute nonce value 763
  | .messageIntegritySha256 value => .ok (messageIntegritySha256, value.toList)
  | .requestedTransport protocol => .ok (requestedTransport, [protocol, 0, 0, 0])
  | .lifetime seconds => .ok (lifetime, beBytes 4 seconds.toNat)
  | .xorPeerAddress address =>
    .ok (xorPeerAddress, encodeXorAddress address transactionId)
  | .xorRelayedAddress address =>
    .ok (xorRelayedAddress, encodeXorAddress address transactionId)
  | .xorMappedAddress address =>
    .ok (xorMappedAddress, encodeXorAddress address transactionId)
  | .channelNumber channel =>
    if ¬(channelMin ≤ channel ∧ channel ≤ channelMax) then .error .invalidChannel
    else .ok (channelNumber, beBytes 2 channel.toNat ++ [0, 0])
  | .data value =>
    if maxDatagramBytes - headerLen - attributeHeaderLen < value.length then .error .tooLarge
    else .ok (data, value)
  | .errorCode code reason =>
    if ¬(300 ≤ code ∧ code ≤ 699) ∨ 128 ≤ reason.length ∨
        65535 - 4 < (utf8Bytes reason).length then
      .error .invalidAttribute
    else
      .ok (errorCode,
        0 :: 0 :: (code / 100).toUInt8 :: (code % 100).toUInt8 :: utf8Bytes reason)

def isKnownAttribute (kind : UInt16) : Bool :=
  open AttributeKind in
  kind ∈ [username, realm, nonce, messageIntegritySha256, requestedTransport, lifetime,
    xorPeerAddress, xorRelayedAddress, xorMappedAddress, channelNumber, data, errorCode]

/-- The last three arms of `decode_attribute`. -/
def decodeOther (kind : UInt16) : Except WireError (Option Attribute) :=
  if 0x8000 ≤ kind then .ok none
  else if !isKnownAttribute kind then .error (.unknownRequired kind)
  else .error .invalidAttribute

def decodeText (value : List UInt8) (max : Nat) (item : List UInt8 → Attribute) :
    Except WireError (Option Attribute) :=
  match boundedText value 1 max with
  | .error e => .error e
  | .ok value => .ok (some (item value))

def decodeAddress (value : List UInt8) (transactionId : Bytes 12)
    (item : SocketAddr → Attribute) : Except WireError (Option Attribute) :=
  match decodeXorAddress value transactionId with
  | .error e => .error e
  | .ok address => .ok (some (item address))

/-- The arm of `decode_attribute` for an error code. -/
def decodeErrorCode (value : List UInt8) : Except WireError (Option Attribute) :=
  let kind := value.getD 2 0 &&& 0x07
  let number := value.getD 3 0
  if ¬(3 ≤ kind ∧ kind ≤ 6) ∨ 99 < number then
    .error .invalidAttribute
  else
    let code := kind.toUInt16 * 100 + number.toUInt16
    match fromUtf8 (value.drop 4) with
    | none => .error .invalidAttribute
    | some reason =>
      if ¬(300 ≤ code ∧ code ≤ 699) ∨ 128 ≤ reason.length then .error .invalidAttribute
      else .ok (some (.errorCode code reason))

/-- An attribute, if its type is known. -/
def decodeAttribute (kind : UInt16) (value : List UInt8) (transactionId : Bytes 12) :
    Except WireError (Option Attribute) :=
  if kind = username then decodeText value 512 .username
  else if kind = realm then decodeText value 127 .realm
  else if kind = nonce then decodeText value 763 .nonce
  else if kind = messageIntegritySha256 ∧ value.length = 32 then
    .ok (some (.messageIntegritySha256 (readBytes 32 value 0)))
  else if kind = requestedTransport ∧ value.length = 4 then
    .ok (some (.requestedTransport (value.getD 0 0)))
  else if kind = lifetime ∧ value.length = 4 then
    .ok (some (.lifetime (readU32 value 0)))
  else if kind = xorPeerAddress then
    decodeAddress value transactionId .xorPeerAddress
  else if kind = xorRelayedAddress then
    decodeAddress value transactionId .xorRelayedAddress
  else if kind = xorMappedAddress then
    decodeAddress value transactionId .xorMappedAddress
  else if kind = channelNumber ∧ value.length = 4 ∧
      (channelMin ≤ readU16 value 0 ∧ readU16 value 0 ≤ channelMax) then
    .ok (some (.channelNumber (readU16 value 0)))
  else if kind = data then .ok (some (.data value))
  else if kind = errorCode ∧ 4 ≤ value.length then decodeErrorCode value
  else decodeOther kind

/-! ## Messages -/

/-- The one attribute that a message may repeat. -/
def repeatPeer (header : Header) (kind : UInt16) : Bool :=
  kind = xorPeerAddress && header.method = .createPermission && header.kind = .request

/-- The loop of `encode`. -/
def encodeAttributes (header : Header) :
    List Attribute → List UInt16 → List UInt8 → Except WireError (List UInt8)
  | [], _, output => .ok output
  | item :: rest, seen, output =>
    match encodeAttribute item header.transactionId with
    | .error e => .error e
    | .ok (kind, value) =>
      if kind ∈ seen ∧ !repeatPeer header kind then
        .error (.duplicate kind)
      else if kind = messageIntegritySha256 ∧ rest ≠ [] then
        .error .integrityPosition
      else
        match appendAttribute output kind value with
        | .error e => .error e
        | .ok output => encodeAttributes header rest (seen ++ [kind]) output

/-- The header that `encode` starts with, before the length is known. -/
def headerBytes (header : Header) : List UInt8 :=
  beBytes 2 (encodeType header.kind (methodCode header.method)).toNat ++
    ([0, 0] ++ (magicCookie.toList ++ header.transactionId.toList))

/-- A header and its attributes. -/
def encode (message : Message) : Except WireError (List UInt8) :=
  match validateHeader message.header with
  | .error e => .error e
  | .ok () =>
    match encodeAttributes message.header message.attributes [] (headerBytes message.header) with
    | .error e => .error e
    | .ok output => finishLength output

/-- What a read consumes. -/
theorem readRawAttribute_next {input value : List UInt8} {cursor stop next : Nat} {kind : UInt16}
    (h : readRawAttribute input cursor stop = .ok (kind, value, next)) :
    cursor + 4 ≤ next ∧ next ≤ stop := by
  unfold readRawAttribute at h
  dsimp only at h
  split_ifs at h with hend
  cases h
  unfold attributeHeaderLen at *
  omega

/-- The loop of `decode`. -/
def decodeAttributes (input : List UInt8) (header : Header) (stop cursor : Nat)
    (seen : List UInt16) (integritySeen : Bool) (attributes : List Attribute) :
    Except WireError (List Attribute) :=
  if cursor < stop then
    match _hread : readRawAttribute input cursor stop with
    | .error e => .error e
    | .ok (kind, value, next) =>
      if integritySeen then
        .error .integrityPosition
      else if kind ∈ seen ∧ !repeatPeer header kind then
        .error (.duplicate kind)
      else
        match decodeAttribute kind value header.transactionId with
        | .error e => .error e
        | .ok item =>
          decodeAttributes input header stop next (seen ++ [kind])
            (kind = messageIntegritySha256) (attributes ++ item.toList)
  else
    .ok attributes
termination_by stop - cursor
decreasing_by
  have := readRawAttribute_next ‹_›
  omega

/-- A header and its attributes. -/
def decode (input : List UInt8) : Except WireError Message :=
  match decodeHeader input with
  | .error e => .error e
  | .ok (header, bodyLen) =>
    match decodeAttributes input header (headerLen + bodyLen) headerLen [] false [] with
    | .error e => .error e
    | .ok attributes => .ok { header := header, attributes := attributes }

/-- The loop of `verify_integrity`: the start and the value of the integrity attribute. -/
def findIntegrity (input : List UInt8) (stop cursor : Nat)
    (integrity : Option (Nat × List UInt8)) :
    Except WireError (Option (Nat × List UInt8)) :=
  if cursor < stop then
    match _hread : readRawAttribute input cursor stop with
    | .error e => .error e
    | .ok (kind, value, next) =>
      if kind = messageIntegritySha256 then
        if value.length ≠ 32 ∨ next ≠ stop ∨ integrity.isSome then
          .error .integrityPosition
        else
          findIntegrity input stop next (some (cursor, value))
      else
        findIntegrity input stop next integrity
  else
    .ok integrity
termination_by stop - cursor
decreasing_by
  all_goals
    have := readRawAttribute_next ‹_›
    omega

section integrity

-- `hmac_sha256` takes the key and the data.
variable (hmac : List UInt8 → List UInt8 → Bytes 32)

/-- A message that ends with its digest. -/
def encodeWithIntegrity (message : Message) (key : List UInt8) : Except WireError (List UInt8) :=
  if message.attributes.any (fun | .messageIntegritySha256 _ => true | _ => false) then
    .error (.duplicate messageIntegritySha256)
  else
    match encode message with
    | .error e => .error e
    | .ok output =>
      let finalLen := output.length + (attributeHeaderLen + 32)
      if maxDatagramBytes < finalLen then
        .error .tooLarge
      else
        let output := setLength output (finalLen - headerLen)
        appendAttribute output messageIntegritySha256 (hmac key output).toList

/-- A message whose digest is right. -/
def verifyIntegrity (input key : List UInt8) : Except WireError VerifiedMessage :=
  match decodeHeader input with
  | .error e => .error e
  | .ok (_, bodyLen) =>
    match findIntegrity input (headerLen + bodyLen) headerLen none with
    | .error e => .error e
    | .ok none => .error .integrityMissing
    | .ok (some (start, supplied)) =>
      let integrityEnd := start + (attributeHeaderLen + 32)
      let covered := setLength (input.take start) (integrityEnd - headerLen)
      if (hmac key covered).toList ≠ supplied then
        .error .integrityMismatch
      else
        match decode input with
        | .error e => .error e
        | .ok message => .ok ⟨message⟩

end integrity

end LatencyDesk.TurnRelay
