import LatencyDesk.Protocol.CandidateExchange

/-!
# Rendezvous registrations

`IceCredentialExchange` and `RendezvousRegistration` in
`crates/protocol/src/lib.rs`.  A registration is a header of 68 bytes with the
lengths of two parts, the credentials of one ICE generation and the candidates
of the same generation.

A registration has one wire form: it encodes to a byte string exactly when the
byte string decodes to it (`registration_canonical`).  Each of the three codecs
shows this from the facts about its parts.

`usize` has 64 bits, so the checked sums of a header length and two lengths of
at most 32 bits are plain sums.
-/

namespace LatencyDesk.Protocol

open Lib List CandidateExchange

/-! ## Credentials -/

inductive IceCredentialRole where
  | controlling
  | controlled
deriving DecidableEq, Repr

/-- `role as u8`. -/
def IceCredentialRole.toByte : IceCredentialRole → UInt8
  | .controlling => 1
  | .controlled => 2

def IceCredentialRole.tryFrom (value : UInt8) : Except ProtocolError IceCredentialRole :=
  if value = 1 then .ok .controlling
  else if value = 2 then .ok .controlled
  else .error (.invalidIceCredentialRole value)

variable {value : UInt8} {role : IceCredentialRole}

theorem IceCredentialRole.tryFrom_eq_ok :
    tryFrom value = .ok role ↔ value = role.toByte := by
  unfold tryFrom
  cases role <;> split_ifs <;> simp_all [toByte]

/-- `b.is_ascii_alphanumeric() || matches!(b, b'+' | b'/')`. -/
def iceByte (byte : UInt8) : Bool :=
  (48 ≤ byte && byte ≤ 57) || (65 ≤ byte && byte ≤ 90) || (97 ≤ byte && byte ≤ 122) ||
    byte == 43 || byte == 47

def iceBytesCharset (value : List UInt8) : Bool := value.all iceByte

def iceCharset (value : String) : Bool := iceBytesCharset (utf8Bytes value)

structure IceCredentialExchange where
  version : UInt8
  exchangeId : UInt64
  generation : UInt32
  role : IceCredentialRole
  ufrag : String
  password : String
deriving DecidableEq

def secretStringFromBytes (bytes : List UInt8) : Except ProtocolError String :=
  match fromUtf8 bytes with
  | some value => .ok value
  | none => .error .invalidIceCredentialCharset

theorem secretStringFromBytes_eq_ok {bytes : List UInt8} {value : String} :
    secretStringFromBytes bytes = .ok value ↔ bytes = utf8Bytes value := by
  unfold secretStringFromBytes
  constructor
  · intro h
    split at h
    · next text htext =>
      cases h
      exact (utf8Bytes_of_fromUtf8 htext).symm
    · cases h
  · intro h
    rw [h, fromUtf8_utf8Bytes]

namespace IceCredentialExchange

/-- `IceCredentialExchange::VERSION`. -/
def currentVersion : UInt8 := 1

def headerLen : Nat := 18

def minUfragLen : Nat := 4

def maxUfragLen : Nat := 64

def minPasswordLen : Nat := 22

def maxPasswordLen : Nat := 128

/-- `(MIN_UFRAG_LEN..=MAX_UFRAG_LEN).contains(&length)`. -/
def ufragLenAllowed (length : Nat) : Bool := minUfragLen ≤ length && length ≤ maxUfragLen

/-- `(MIN_PASSWORD_LEN..=MAX_PASSWORD_LEN).contains(&length)`. -/
def passwordLenAllowed (length : Nat) : Bool :=
  minPasswordLen ≤ length && length ≤ maxPasswordLen

def validate (exchange : IceCredentialExchange) : Except ProtocolError Unit :=
  if exchange.version ≠ currentVersion then
    .error (.unsupportedVersion exchange.version)
  else if exchange.exchangeId = 0 then
    .error .invalidIceCredentialExchangeId
  else if exchange.generation = 0 then
    .error .invalidIceCredentialGeneration
  else if !ufragLenAllowed (utf8Bytes exchange.ufrag).length || !iceCharset exchange.ufrag then
    .error .invalidIceCredentialUfrag
  else if !passwordLenAllowed (utf8Bytes exchange.password).length ||
      !iceCharset exchange.password then
    .error .invalidIceCredentialPassword
  else
    .ok ()

/-- `IceCredentialExchange::new`. -/
def new (exchange : IceCredentialExchange) : Except ProtocolError IceCredentialExchange :=
  match exchange.validate with
  | .error e => .error e
  | .ok () => .ok exchange

def headerBytes (exchange : IceCredentialExchange) : List UInt8 :=
  exchange.version :: (beBytes 8 exchange.exchangeId.toNat ++
    (beBytes 4 exchange.generation.toNat ++ (exchange.role.toByte ::
      (beBytes 2 (utf8Bytes exchange.ufrag).length ++
        beBytes 2 (utf8Bytes exchange.password).length))))

def toBytes (exchange : IceCredentialExchange) : List UInt8 :=
  exchange.headerBytes ++ (utf8Bytes exchange.ufrag ++ utf8Bytes exchange.password)

def encode (exchange : IceCredentialExchange) : Except ProtocolError (List UInt8) :=
  match exchange.validate with
  | .error e => .error e
  | .ok () => .ok exchange.toBytes

/-- The part of `decode` behind the checks of the header. -/
def decodeSecrets (bytes : List UInt8) (role : IceCredentialRole) (ulen plen : Nat) :
    Except ProtocolError IceCredentialExchange :=
  let ufragBytes := slice bytes headerLen ulen
  let passwordBytes := slice bytes (headerLen + ulen) plen
  if !iceBytesCharset ufragBytes then
    .error .invalidIceCredentialUfrag
  else if !iceBytesCharset passwordBytes then
    .error .invalidIceCredentialPassword
  else
    match secretStringFromBytes ufragBytes with
    | .error e => .error e
    | .ok ufrag =>
      match secretStringFromBytes passwordBytes with
      | .error e => .error e
      | .ok password =>
        new
          { version := bytes.getD 0 0
            exchangeId := readU64 bytes 1
            generation := readU32 bytes 9
            role := role
            ufrag := ufrag
            password := password }

def decode (bytes : List UInt8) : Except ProtocolError IceCredentialExchange :=
  if maxControlBytes < bytes.length then
    .error (.controlLength (.ofNat (min bytes.length (2 ^ 32 - 1))))
  else if bytes.length < headerLen then
    .error (.truncated headerLen bytes.length)
  else
    let ulen := (readU16 bytes 14).toNat
    let plen := (readU16 bytes 16).toNat
    let expected := headerLen + ulen + plen
    if !ufragLenAllowed ulen then
      .error .invalidIceCredentialUfrag
    else if !passwordLenAllowed plen then
      .error .invalidIceCredentialPassword
    else if bytes.length ≠ expected then
      .error (.payloadLength expected bytes.length)
    else if bytes.getD 0 0 ≠ currentVersion then
      .error (.unsupportedVersion (bytes.getD 0 0))
    else if readU64 bytes 1 = 0 then
      .error .invalidIceCredentialExchangeId
    else if readU32 bytes 9 = 0 then
      .error .invalidIceCredentialGeneration
    else
      match IceCredentialRole.tryFrom (bytes.getD 13 0) with
      | .error e => .error e
      | .ok role => decodeSecrets bytes role ulen plen

variable {exchange : IceCredentialExchange} {bytes : List UInt8}

theorem validate_eq_ok :
    exchange.validate = .ok () ↔
      exchange.version = currentVersion ∧ exchange.exchangeId ≠ 0 ∧ exchange.generation ≠ 0 ∧
        (ufragLenAllowed (utf8Bytes exchange.ufrag).length ∧ iceCharset exchange.ufrag) ∧
        passwordLenAllowed (utf8Bytes exchange.password).length ∧ iceCharset exchange.password := by
  unfold validate
  split_ifs <;> grind

/-- The texts of valid credentials are short. -/
theorem length_le_of_validate (h : exchange.validate = .ok ()) :
    (utf8Bytes exchange.ufrag).length ≤ 64 ∧ (utf8Bytes exchange.password).length ≤ 128 := by
  obtain ⟨-, -, -, ⟨hufrag, -⟩, hpwd, -⟩ := validate_eq_ok.1 h
  simp only [ufragLenAllowed, passwordLenAllowed, Bool.and_eq_true, decide_eq_true_eq]
    at hufrag hpwd
  exact ⟨hufrag.2, hpwd.2⟩

theorem encode_eq_ok :
    exchange.encode = .ok bytes ↔ exchange.validate = .ok () ∧ bytes = exchange.toBytes := by
  unfold encode
  split
  · next herror =>
    exact iff_of_false nofun fun h => by rw [h.1] at herror; cases herror
  · next hval => exact ⟨fun h => ⟨hval, (Except.ok.inj h).symm⟩, fun h => by rw [h.2]⟩

theorem length_headerBytes (exchange : IceCredentialExchange) :
    exchange.headerBytes.length = headerLen := by
  simp [headerBytes, headerLen]

/-- The header, field by field. -/
theorem slice_eq_headerBytes (h : headerLen ≤ bytes.length)
    (hval : exchange.validate = .ok ()) :
    slice bytes 0 headerLen = exchange.headerBytes ↔
      bytes.getD 0 0 = exchange.version ∧ readU64 bytes 1 = exchange.exchangeId ∧
        readU32 bytes 9 = exchange.generation ∧ bytes.getD 13 0 = exchange.role.toByte ∧
        (readU16 bytes 14).toNat = (utf8Bytes exchange.ufrag).length ∧
        (readU16 bytes 16).toNat = (utf8Bytes exchange.password).length := by
  unfold headerLen at h
  obtain ⟨hufrag, hpwd⟩ := length_le_of_validate hval
  rw [headerBytes, show headerLen = 8 + (4 + (2 + 2 + 1)) + 1 from rfl, slice_eq_cons (by omega),
    slice_eq_field (4 + (2 + 2 + 1)) (word64_eq_iff (by omega)) length_beBytes,
    slice_eq_field (2 + 2 + 1) (word32_eq_iff (by omega)) length_beBytes,
    slice_eq_cons (by omega),
    slice_eq_field 2 (length16_eq_iff (by omega) (by omega)) length_beBytes,
    ← length16_eq_iff (by omega) (by omega)]
  rfl

theorem new_eq_ok {value : IceCredentialExchange} :
    new value = .ok exchange ↔ exchange.validate = .ok () ∧ exchange = value := by
  unfold new
  split
  · next herror =>
    refine iff_of_false nofun fun ⟨hval, hvalue⟩ => ?_
    rw [← hvalue, hval] at herror
    cases herror
  · next hval =>
    constructor
    · intro h
      cases h
      exact ⟨hval, rfl⟩
    · intro h
      rw [h.2]

theorem decodeSecrets_eq_ok {ulen plen : Nat} :
    decodeSecrets bytes role ulen plen = .ok exchange ↔
      exchange.validate = .ok () ∧ bytes.getD 0 0 = exchange.version ∧
        readU64 bytes 1 = exchange.exchangeId ∧ readU32 bytes 9 = exchange.generation ∧
        role = exchange.role ∧ slice bytes headerLen ulen = utf8Bytes exchange.ufrag ∧
        slice bytes (headerLen + ulen) plen = utf8Bytes exchange.password := by
  unfold decodeSecrets
  dsimp only
  constructor
  · intro h
    split_ifs at h
    split at h
    · cases h
    next ufrag hufrag =>
    split at h
    · cases h
    next password hpwd =>
    obtain ⟨hval, rfl⟩ := new_eq_ok.1 h
    exact ⟨hval, rfl, rfl, rfl, rfl, secretStringFromBytes_eq_ok.1 hufrag,
      secretStringFromBytes_eq_ok.1 hpwd⟩
  · intro ⟨hval, hver, hid, hgen, hrole, hufrag, hpwd⟩
    obtain ⟨-, -, -, ⟨-, hufragSet⟩, -, hpasswordSet⟩ := validate_eq_ok.1 hval
    unfold iceCharset at hufragSet hpasswordSet
    rw [hufrag, hpwd, hufragSet, hpasswordSet, secretStringFromBytes_eq_ok.2 rfl,
      secretStringFromBytes_eq_ok.2 rfl]
    exact new_eq_ok.2 ⟨hval, by rw [hver, hid, hgen, hrole]⟩

/-- Credentials have one wire form. -/
theorem decode_eq_ok : decode bytes = .ok exchange ↔ exchange.encode = .ok bytes := by
  rw [encode_eq_ok, toBytes, eq_iff_slice, length_append, length_append,
    length_headerBytes, slice_eq_append exchange.length_headerBytes, slice_eq_append rfl]
  unfold decode
  dsimp only
  constructor
  · intro h
    split_ifs at h with hlong hid
    split at h
    · cases h
    next role hrole =>
    obtain ⟨hval, hver, hid, hgen, rfl, hufrag, hpwd⟩ :=
      decodeSecrets_eq_ok.1 h
    have hulen : (utf8Bytes exchange.ufrag).length = (readU16 bytes 14).toNat := by
      rw [← hufrag, length_slice (by omega)]
    have hplen : (utf8Bytes exchange.password).length = (readU16 bytes 16).toNat := by
      rw [← hpwd, length_slice (by omega)]
    rw [hulen, hplen, slice_eq_headerBytes (by omega) hval]
    exact ⟨hval, by omega, ⟨hver, hid, hgen, IceCredentialRole.tryFrom_eq_ok.1 hrole,
      hulen.symm, hplen.symm⟩, hufrag, hpwd⟩
  · intro ⟨hval, hlen, hhdr, hufrag, hpwd⟩
    obtain ⟨hcurr, hid0, hgeneration0, ⟨hufragLen, -⟩, hpasswordLen, -⟩ :=
      validate_eq_ok.1 hval
    obtain ⟨hufragShort, hpasswordShort⟩ := length_le_of_validate hval
    obtain ⟨hver, hid, hgen, hrole, hulen, hplen⟩ :=
      (slice_eq_headerBytes (by omega) hval).1 hhdr
    have hheaderLen : headerLen = 18 := rfl
    have hctl : maxControlBytes = 262144 := rfl
    rw [if_neg (by omega), if_neg (by omega), hulen, hplen, hufragLen, hpasswordLen,
      Bool.not_true, if_neg Bool.false_ne_true, if_neg Bool.false_ne_true, if_neg (by omega), hver,
      hid, hgen, if_neg (not_not.2 hcurr), if_neg hid0, if_neg hgeneration0,
      IceCredentialRole.tryFrom_eq_ok.2 hrole]
    exact decodeSecrets_eq_ok.2 ⟨hval, hver, hid, hgen, rfl, hufrag, hpwd⟩

end IceCredentialExchange

/-! ## Registrations -/

/-- The role of an authenticated peer in one match. -/
inductive RendezvousRole where
  | initiator
  | responder
deriving DecidableEq, Repr

/-- `role as u8`. -/
def RendezvousRole.toByte : RendezvousRole → UInt8
  | .initiator => 1
  | .responder => 2

def RendezvousRole.tryFrom (value : UInt8) : Except ProtocolError RendezvousRole :=
  if value = 1 then .ok .initiator
  else if value = 2 then .ok .responder
  else .error (.invalidRendezvousRole value)

theorem RendezvousRole.tryFrom_eq_ok {role : RendezvousRole} :
    tryFrom value = .ok role ↔ value = role.toByte := by
  unfold tryFrom
  cases role <;> split_ifs <;> simp_all [toByte]

/-- The pairs of roles that `validate` accepts. -/
def RendezvousRole.agrees : RendezvousRole → IceCredentialRole → Bool
  | .initiator, .controlling => true
  | .responder, .controlled => true
  | _, _ => false

structure RendezvousRegistration where
  version : UInt8
  role : RendezvousRole
  generation : UInt32
  ttlSeconds : UInt16
  matchId : Bytes 16
  expectedPeerFingerprint : Bytes 32
  credentials : IceCredentialExchange
  candidates : CandidateExchange
deriving DecidableEq

namespace RendezvousRegistration

/-- `RendezvousRegistration::VERSION`. -/
def currentVersion : UInt8 := 1

def headerLen : Nat := 68

def minTtlSeconds : UInt16 := 5

def maxTtlSeconds : UInt16 := 120

def maxEncodedLen : Nat := 4 * 1024

def validate (registration : RendezvousRegistration) : Except ProtocolError Unit :=
  if registration.version ≠ currentVersion then
    .error (.unsupportedVersion registration.version)
  else if registration.generation = 0 ∨
      ¬(minTtlSeconds ≤ registration.ttlSeconds ∧ registration.ttlSeconds ≤ maxTtlSeconds) ∨
      registration.matchId = .replicate 16 0 ∨
      registration.expectedPeerFingerprint = .replicate 32 0 ∨
      registration.credentials.generation ≠ registration.generation ∨
      registration.candidates.generation ≠ registration.generation ∨
      registration.credentials.exchangeId ≠ registration.candidates.exchangeId ∨
      ¬registration.role.agrees registration.credentials.role then
    .error .invalidRendezvousRegistration
  else
    match registration.credentials.validate with
    | .error e => .error e
    | .ok () =>
      match registration.candidates.encode with
      | .error e => .error e
      | .ok _ => .ok ()

def headerBytes (registration : RendezvousRegistration) (credentialsLen candidatesLen : Nat) :
    List UInt8 :=
  registration.version :: registration.role.toByte :: 0 :: 0 ::
    (beBytes 4 registration.generation.toNat ++ (beBytes 2 registration.ttlSeconds.toNat ++
      (0 :: 0 :: (registration.matchId.toList ++ (registration.expectedPeerFingerprint.toList ++
        (beBytes 4 credentialsLen ++ beBytes 4 candidatesLen))))))

def encode (registration : RendezvousRegistration) : Except ProtocolError (List UInt8) :=
  match registration.validate with
  | .error e => .error e
  | .ok () =>
    match registration.credentials.encode with
    | .error e => .error e
    | .ok credentials =>
      match registration.candidates.encode with
      | .error e => .error e
      | .ok candidates =>
        let total := headerLen + credentials.length + candidates.length
        if maxEncodedLen < total then
          .error (.rendezvousLength total)
        else
          .ok (registration.headerBytes credentials.length candidates.length ++
            (credentials ++ candidates))

/-- The part of `decode` behind the checks of the lengths. -/
def decodeParts (bytes : List UInt8) (credentialsLen candidatesLen : Nat) :
    Except ProtocolError RendezvousRegistration :=
  match RendezvousRole.tryFrom (bytes.getD 1 0) with
  | .error e => .error e
  | .ok role =>
    match IceCredentialExchange.decode (slice bytes headerLen credentialsLen) with
    | .error e => .error e
    | .ok credentials =>
      match CandidateExchange.decode (slice bytes (headerLen + credentialsLen) candidatesLen) with
      | .error e => .error e
      | .ok candidates =>
        let registration : RendezvousRegistration :=
          { version := bytes.getD 0 0
            role := role
            generation := readU32 bytes 4
            ttlSeconds := readU16 bytes 8
            matchId := readBytes 16 bytes 12
            expectedPeerFingerprint := readBytes 32 bytes 28
            credentials := credentials
            candidates := candidates }
        match registration.validate with
        | .error e => .error e
        | .ok () => .ok registration

def decode (bytes : List UInt8) : Except ProtocolError RendezvousRegistration :=
  if maxEncodedLen < bytes.length then
    .error (.rendezvousLength bytes.length)
  else if bytes.length < headerLen then
    .error (.truncated headerLen bytes.length)
  else if slice bytes 2 2 ≠ [0, 0] ∨ slice bytes 10 2 ≠ [0, 0] then
    .error .reservedBits
  else
    let credentialsLen := (readU32 bytes 60).toNat
    let candidatesLen := (readU32 bytes 64).toNat
    let expected := headerLen + credentialsLen + candidatesLen
    if expected ≠ bytes.length then
      .error (.payloadLength expected bytes.length)
    else
      decodeParts bytes credentialsLen candidatesLen

variable {registration : RendezvousRegistration} {bytes : List UInt8}

theorem length_headerBytes (registration : RendezvousRegistration)
    (credentialsLen candidatesLen : Nat) :
    (registration.headerBytes credentialsLen candidatesLen).length = headerLen := by
  simp [headerBytes, headerLen]

variable {credentialsLen candidatesLen : Nat}

/-- The header, field by field. -/
theorem slice_eq_headerBytes (h : headerLen ≤ bytes.length) (hcreds : credentialsLen < 2 ^ 32)
    (hcands : candidatesLen < 2 ^ 32) :
    slice bytes 0 headerLen = registration.headerBytes credentialsLen candidatesLen ↔
      (bytes.getD 0 0 = registration.version ∧ bytes.getD 1 0 = registration.role.toByte) ∧
        slice bytes 2 2 = [0, 0] ∧
        (readU32 bytes 4 = registration.generation ∧ readU16 bytes 8 = registration.ttlSeconds) ∧
        slice bytes 10 2 = [0, 0] ∧
        readBytes 16 bytes 12 = registration.matchId ∧
        readBytes 32 bytes 28 = registration.expectedPeerFingerprint ∧
        (readU32 bytes 60).toNat = credentialsLen ∧ (readU32 bytes 64).toNat = candidatesLen := by
  unfold headerLen at h
  have hresv : ∀ (start rest : Nat) {back : List UInt8}, slice bytes start (2 + rest) =
      0 :: 0 :: back ↔ slice bytes start 2 = [0, 0] ∧ slice bytes (start + 2) rest = back :=
    fun _ _ _ => slice_eq_append (show [0, 0].length = 2 from rfl)
  rw [headerBytes, show headerLen = 2 + (4 + (2 + (2 + 56))) + 1 + 1 from rfl,
    slice_eq_cons (by omega), slice_eq_cons (by omega), hresv _ (4 + (2 + (2 + 56))),
    slice_eq_field (2 + (2 + 56)) (word32_eq_iff (by omega)) length_beBytes,
    slice_eq_field (2 + 56) (word16_eq_iff (by omega)) length_beBytes, hresv _ 56,
    slice_eq_field (32 + (4 + 4)) (readBytes_eq_iff (by omega)) registration.matchId.toList_length,
    slice_eq_field (4 + 4) (readBytes_eq_iff (by omega)) (List.Vector.toList_length _),
    slice_eq_field 4 (length32_eq_iff (by omega) hcreds) length_beBytes,
    ← length32_eq_iff (by omega) hcands]
  simp only [and_assoc]
  rfl

theorem encode_eq_ok :
    registration.encode = .ok bytes ↔ registration.validate = .ok () ∧
      bytes.length ≤ maxEncodedLen ∧
      ∃ creds cands, registration.credentials.encode = .ok creds ∧
        registration.candidates.encode = .ok cands ∧
        bytes = registration.headerBytes creds.length cands.length ++ (creds ++ cands) := by
  unfold encode
  constructor
  · intro h
    split at h
    · cases h
    next hval =>
    split at h
    · cases h
    next creds hcreds =>
    split at h
    · cases h
    next cands hcands =>
    dsimp only at h
    split_ifs at h with hlong
    cases h
    refine ⟨hval, ?_, creds, cands, hcreds, hcands, rfl⟩
    rw [length_append, length_append, length_headerBytes]
    omega
  · intro ⟨hval, hlong, creds, cands, hcreds, hcands, hbytes⟩
    rw [hbytes, length_append, length_append, length_headerBytes] at hlong
    rw [hval, hcreds, hcands]
    dsimp only
    rw [if_neg (by omega), hbytes]

/-- The lifetime of a registration that encodes is within its bounds. -/
theorem ttl_of_encode (h : registration.encode = .ok bytes) :
    minTtlSeconds ≤ registration.ttlSeconds ∧ registration.ttlSeconds ≤ maxTtlSeconds := by
  have hval := (encode_eq_ok.1 h).1
  unfold validate at hval
  split_ifs at hval with hver hfields
  rw [not_or, not_or, not_not] at hfields
  exact hfields.2.1

open IceCredentialExchange

theorem decodeParts_eq_ok :
    decodeParts bytes credentialsLen candidatesLen = .ok registration ↔
      registration.validate = .ok () ∧
        (bytes.getD 0 0 = registration.version ∧ bytes.getD 1 0 = registration.role.toByte) ∧
        (readU32 bytes 4 = registration.generation ∧ readU16 bytes 8 = registration.ttlSeconds) ∧
        readBytes 16 bytes 12 = registration.matchId ∧
        readBytes 32 bytes 28 = registration.expectedPeerFingerprint ∧
        registration.credentials.encode = .ok (slice bytes headerLen credentialsLen) ∧
        registration.candidates.encode =
          .ok (slice bytes (headerLen + credentialsLen) candidatesLen) := by
  unfold decodeParts
  constructor
  · intro h
    split at h
    · cases h
    next role hrole =>
    split at h
    · cases h
    next creds hcreds =>
    split at h
    · cases h
    next cands hcands =>
    dsimp only at h
    split at h
    · cases h
    next hval =>
    cases h
    exact ⟨hval, ⟨rfl, RendezvousRole.tryFrom_eq_ok.1 hrole⟩, ⟨rfl, rfl⟩, rfl, rfl,
      decode_eq_ok.1 hcreds,
      decode_eq_ok.1 hcands⟩
  · intro ⟨hval, ⟨hver, hrole⟩, ⟨hgen, httl⟩, hid, hfingerprint, hcreds, hcands⟩
    rw [RendezvousRole.tryFrom_eq_ok.2 hrole, decode_eq_ok.2 hcreds,
      decode_eq_ok.2 hcands]
    dsimp only
    rw [hver, hgen, httl, hid, hfingerprint, hval]

/-- The bytes of an encoded registration, part by part. -/
theorem encode_eq_ok_iff_slice :
    registration.encode = .ok bytes ↔ registration.validate = .ok () ∧
      bytes.length ≤ maxEncodedLen ∧
      ∃ credentialsLen candidatesLen,
        bytes.length = headerLen + credentialsLen + candidatesLen ∧
        slice bytes 0 headerLen = registration.headerBytes credentialsLen candidatesLen ∧
        registration.credentials.encode = .ok (slice bytes headerLen credentialsLen) ∧
        registration.candidates.encode =
          .ok (slice bytes (headerLen + credentialsLen) candidatesLen) := by
  rw [encode_eq_ok]
  refine and_congr_right' (and_congr_right' ⟨?_, ?_⟩)
  · intro ⟨creds, cands, hcreds, hcands, hbytes⟩
    rw [eq_iff_slice, length_append, length_append, length_headerBytes,
      slice_eq_append (registration.length_headerBytes _ _), slice_eq_append rfl,
      Nat.zero_add] at hbytes
    obtain ⟨hlen, hhdr, hfirst, hsnd⟩ := hbytes
    exact ⟨creds.length, cands.length, by omega, hhdr, by rw [hfirst, hcreds],
      by rw [hsnd, hcands]⟩
  · intro ⟨credentialsLen, candidatesLen, hlen, hhdr, hcreds, hcands⟩
    refine ⟨_, _, hcreds, hcands, ?_⟩
    rw [eq_iff_slice, length_append, length_append, length_headerBytes,
      slice_eq_append (registration.length_headerBytes _ _), slice_eq_append rfl,
      length_slice (by omega), length_slice (by omega)]
    exact ⟨by omega, hhdr, rfl, rfl⟩

theorem decode_eq_ok : decode bytes = .ok registration ↔ registration.encode = .ok bytes := by
  rw [encode_eq_ok_iff_slice, iff_comm]
  unfold decode
  constructor
  · intro ⟨hval, hlong, credentialsLen, candidatesLen, hlen, hhdr, hcreds, hcands⟩
    have hmax : maxEncodedLen = 4096 := rfl
    obtain ⟨hfirst, hzero, hnumbers, hresv, hid, hfingerprint, hfirstLen, hsecondLen⟩ :=
      (slice_eq_headerBytes (by omega) (by omega) (by omega)).1 hhdr
    rw [if_neg (by omega), if_neg (by omega), if_neg (by rw [hzero, hresv]; decide)]
    rw [hfirstLen, hsecondLen, if_neg (by omega)]
    exact decodeParts_eq_ok.2 ⟨hval, hfirst, hnumbers, hid, hfingerprint, hcreds, hcands⟩
  · intro h
    dsimp only at h
    split_ifs at h with hlong hshort hresv hlen
    rw [not_or, not_not, not_not] at hresv
    obtain ⟨hval, hfirst, hnumbers, hid, hfingerprint, hcreds, hcands⟩ :=
      decodeParts_eq_ok.1 h
    refine ⟨hval, by omega, _, _, (not_not.1 hlen).symm, ?_, hcreds, hcands⟩
    rw [slice_eq_headerBytes (by omega) (UInt32.toNat_lt _) (UInt32.toNat_lt _)]
    exact ⟨hfirst, hresv.1, hnumbers, hresv.2, hid, hfingerprint, rfl, rfl⟩

/-- A registration has one wire form: what it encodes to decodes to it, what decodes to
it is what it encodes to, and so no two byte strings decode to it. -/
theorem registration_canonical (registration : RendezvousRegistration) (bytes : List UInt8) :
    (registration.encode = .ok bytes → decode bytes = .ok registration) ∧
      (decode bytes = .ok registration → registration.encode = .ok bytes) ∧
      ∀ other, decode bytes = .ok registration → decode other = .ok registration →
        other = bytes := by
  refine ⟨decode_eq_ok.2, decode_eq_ok.1, fun other hbytes hoth => ?_⟩
  have henc := decode_eq_ok.1 hbytes
  rw [decode_eq_ok.1 hoth] at henc
  exact Except.ok.inj henc

/-- One host candidate and credentials of the shortest lengths. -/
def sample : RendezvousRegistration where
  version := 1
  role := .initiator
  generation := 7
  ttlSeconds := 30
  matchId := .replicate 16 9
  expectedPeerFingerprint := .replicate 32 5
  credentials :=
    { version := 1
      exchangeId := 3
      generation := 7
      role := .controlling
      ufrag := "aB3+"
      password := "0123456789abcdefghijk/" }
  candidates :=
    { version := 1
      exchangeId := 3
      generation := 7
      candidates :=
        [{ foundation := .replicate 8 1
           component := 1
           transport := .udp
           candidateType := .host
           relayProvider := .none
           priority := 100
           port := 4433
           ip := .v4 (.cons 192 (.cons 0 (.cons 2 (.cons 7 .nil))))
           relatedAddress := none }] }

theorem sample_canonical : ∃ bytes, sample.encode = .ok bytes ∧ decode bytes = .ok sample := by
  have henc : sample.encode.isOk := by decide +kernel
  match hbytes : sample.encode with
  | .ok bytes => exact ⟨bytes, rfl, (registration_canonical sample bytes).1 hbytes⟩
  | .error _ => rw [hbytes] at henc; cases henc

end RendezvousRegistration

end LatencyDesk.Protocol
