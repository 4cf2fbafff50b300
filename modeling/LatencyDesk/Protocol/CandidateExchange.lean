import LatencyDesk.Lib.Slice
import LatencyDesk.Protocol.Candidate
import LatencyDesk.Protocol.Media

/-!
# Candidate advertisements

The wire forms of `IceCandidate` and `CandidateExchange` in
`crates/protocol/src/lib.rs`.  A candidate has a fixed part of 18 bytes, an
address and a related address, each behind a byte that names its family.  An
exchange is a header and its candidates, each behind its length.

Both forms are canonical.  `IceCandidate.decode_eq_ok` and
`CandidateExchange.decode_eq_ok` say that a byte string decodes to a value
exactly when the value encodes to the byte string.
-/

namespace LatencyDesk.Protocol

open Lib List WireIpAddr IceCandidate List.Vector TransportProtocol Except

/-- `MAX_CONTROL_BYTES`. -/
def maxControlBytes : Nat := 256 * 1024

/-! ## Codes -/

/-- `transport as u8`. -/
def TransportProtocol.toByte : TransportProtocol → UInt8
  | .udp => 1
  | .tcp => 2

def TransportProtocol.tryFrom (value : UInt8) : Except ProtocolError TransportProtocol :=
  if value = 1 then .ok .udp
  else if value = 2 then .ok .tcp
  else .error (.invalidTransportProtocol value)

/-- `candidate_type as u8`. -/
def CandidateType.toByte : CandidateType → UInt8
  | .host => 1
  | .serverReflexive => 2
  | .peerReflexive => 3
  | .relayed => 4

def CandidateType.tryFrom (value : UInt8) : Except ProtocolError CandidateType :=
  if value = 1 then .ok .host
  else if value = 2 then .ok .serverReflexive
  else if value = 3 then .ok .peerReflexive
  else if value = 4 then .ok .relayed
  else .error (.invalidCandidateType value)

def RelayProvider.tryFrom (value : UInt8) : Except ProtocolError RelayProvider :=
  if value = 0 then .ok .none
  else if value = 1 then .ok .turn
  else if value = 2 then .ok .derp
  else .error (.invalidRelayProvider value)

variable {value : UInt8} {transport : TransportProtocol}

theorem TransportProtocol.tryFrom_eq_ok :
    tryFrom value = .ok transport ↔ value = transport.toByte := by
  unfold tryFrom
  cases transport <;> split_ifs <;> simp_all [toByte]

variable {candidateType : CandidateType}

theorem CandidateType.tryFrom_eq_ok :
    tryFrom value = .ok candidateType ↔ value = candidateType.toByte := by
  unfold tryFrom
  cases candidateType <;> split_ifs <;> simp_all [toByte]

theorem RelayProvider.tryFrom_eq_ok {provider : RelayProvider} :
    tryFrom value = .ok provider ↔ value = provider.toByte := by
  unfold tryFrom
  cases provider <;> split_ifs <;> simp_all [toByte]

/-! ## Addresses -/

/-- The family byte of an address and its octets. -/
def WireIpAddr.toBytes : WireIpAddr → List UInt8
  | .v4 octets => 4 :: octets.toList
  | .v6 octets => 6 :: octets.toList

def relatedBytes : Option (WireIpAddr × UInt16) → List UInt8
  | none => [0]
  | some (related, relPort) => related.toBytes ++ beBytes 2 relPort.toNat

/-- The part of `IceCandidate::decode` that reads the address at the cursor.  It
also gives the cursor behind it. -/
def decodeIp (bytes : List UInt8) (cursor : Nat) : Except ProtocolError (WireIpAddr × Nat) :=
  let ipType := bytes.getD cursor 0
  let cursor := cursor + 1
  if ipType = 4 then
    if bytes.length < cursor + 4 then
      .error (.truncated (cursor + 4) bytes.length)
    else
      .ok (.v4 (readBytes 4 bytes cursor), cursor + 4)
  else if ipType = 6 then
    if bytes.length < cursor + 16 then
      .error (.truncated (cursor + 16) bytes.length)
    else
      .ok (.v6 (readBytes 16 bytes cursor), cursor + 16)
  else
    .error .invalidCandidateAddress

/-- The part of `IceCandidate::decode` that reads the related address. -/
def decodeRelated (bytes : List UInt8) (cursor : Nat) :
    Except ProtocolError (Option (WireIpAddr × UInt16) × Nat) :=
  if bytes.length < cursor + 1 then
    .error (.truncated (cursor + 1) bytes.length)
  else
    let relType := bytes.getD cursor 0
    let cursor := cursor + 1
    if relType = 0 then
      .ok (none, cursor)
    else if relType = 4 then
      if bytes.length < cursor + 6 then
        .error (.truncated (cursor + 6) bytes.length)
      else
        .ok (some (.v4 (readBytes 4 bytes cursor), readU16 bytes (cursor + 4)), cursor + 6)
    else if relType = 6 then
      if bytes.length < cursor + 18 then
        .error (.truncated (cursor + 18) bytes.length)
      else
        .ok (some (.v6 (readBytes 16 bytes cursor), readU16 bytes (cursor + 16)), cursor + 18)
    else
      .error .invalidCandidateAddress

section

variable {bytes : List UInt8} {cursor next : Nat}

/-- The address is read from the bytes that it is written as. -/
theorem decodeIp_eq_ok {ip : WireIpAddr} (hcursor : cursor < bytes.length) :
    decodeIp bytes cursor = .ok (ip, next) ↔
      slice bytes cursor ip.toBytes.length = ip.toBytes ∧ next = cursor + ip.toBytes.length := by
  unfold decodeIp
  cases ip with
  | v4 octets =>
    simp only [toBytes, length_cons, toList_length]
    rw [slice_eq_cons hcursor]
    constructor
    · intro h
      split_ifs at h with hfour
      · simp only [ok.injEq, Prod.mk.injEq, v4.injEq] at h
        exact ⟨⟨hfour, (readBytes_eq_iff (by omega)).1 h.1⟩, h.2.symm⟩
      · simp at h
    · intro ⟨⟨hfour, hoctets⟩, hnext⟩
      have hins := le_of_slice_eq hoctets octets.toList_length hcursor
      rw [if_pos hfour, if_neg (by omega), (readBytes_eq_iff hins).2 hoctets, hnext]
  | v6 octets =>
    simp only [toBytes, length_cons, toList_length]
    rw [slice_eq_cons hcursor]
    constructor
    · intro h
      split_ifs at h with hfour hlen hsix
      · simp at h
      · simp only [ok.injEq, Prod.mk.injEq, v6.injEq] at h
        exact ⟨⟨hsix, (readBytes_eq_iff (by omega)).1 h.1⟩, h.2.symm⟩
    · intro ⟨⟨hsix, hoctets⟩, hnext⟩
      have hins := le_of_slice_eq hoctets octets.toList_length hcursor
      rw [if_neg (by rw [hsix]; decide), if_pos hsix, if_neg (by omega),
        (readBytes_eq_iff hins).2 hoctets, hnext]

/-- An address and a port, as a related address has them. -/
theorem readAddress_eq_iff {n : Nat} {octets : Bytes n} {port : UInt16}
    (h : cursor + (n + 2) ≤ bytes.length) :
    readBytes n bytes cursor = octets ∧ readU16 bytes (cursor + n) = port ↔
      slice bytes cursor (n + 2) = octets.toList ++ beBytes 2 port.toNat := by
  rw [slice_eq_append octets.toList_length]
  exact and_congr (readBytes_eq_iff (by omega)) (word16_eq_iff (by omega))

theorem decodeRelated_eq_ok {related : Option (WireIpAddr × UInt16)}
    (hcursor : cursor ≤ bytes.length) :
    decodeRelated bytes cursor = .ok (related, next) ↔
      slice bytes cursor (relatedBytes related).length = relatedBytes related ∧
        next = cursor + (relatedBytes related).length := by
  unfold decodeRelated
  split
  · refine iff_of_false nofun fun h => ?_
    have hins := le_of_slice_eq h.1 rfl hcursor
    have hpos : 0 < (relatedBytes related).length := by
      match related with
      | none => exact Nat.one_pos
      | some (.v4 _, _) | some (.v6 _, _) => exact Nat.succ_pos _
    omega
  match related with
  | none =>
    simp only [relatedBytes, length_singleton]
    rw [slice_eq_cons (by omega)]
    constructor
    · intro h
      split_ifs at h with hzero
      · cases h
        exact ⟨⟨hzero, rfl⟩, rfl⟩
      · cases h
      · cases h
    · intro ⟨⟨hzero, _⟩, hnext⟩
      rw [if_pos hzero, hnext]
  | some (.v4 octets, port) =>
    simp only [relatedBytes, toBytes, cons_append, length_cons,
      length_append, toList_length, length_beBytes]
    rw [slice_eq_cons (by omega)]
    constructor
    · intro h
      split_ifs at h with hzero hfour
      · cases h
      · simp only [ok.injEq, Prod.mk.injEq, Option.some.injEq, v4.injEq] at h
        exact ⟨⟨hfour, (readAddress_eq_iff (by omega)).1 h.1⟩, h.2.symm⟩
      · simp at h
    · intro ⟨⟨hfour, haddr⟩, hnext⟩
      have hins := le_of_slice_eq haddr (by simp) (by omega)
      obtain ⟨hoctets, hport⟩ := (readAddress_eq_iff hins).2 haddr
      rw [if_neg (by rw [hfour]; decide), if_pos hfour, if_neg (by omega), hoctets, hport, hnext]
  | some (.v6 octets, port) =>
    simp only [relatedBytes, toBytes, cons_append, length_cons,
      length_append, toList_length, length_beBytes]
    rw [slice_eq_cons (by omega)]
    constructor
    · intro h
      split_ifs at h with hzero hfour hlen hsix
      · cases h
      · simp at h
      · simp only [ok.injEq, Prod.mk.injEq, Option.some.injEq, v6.injEq] at h
        exact ⟨⟨hsix, (readAddress_eq_iff (by omega)).1 h.1⟩, h.2.symm⟩
    · intro ⟨⟨hsix, haddr⟩, hnext⟩
      have hins := le_of_slice_eq haddr (by simp) (by omega)
      obtain ⟨hoctets, hport⟩ := (readAddress_eq_iff hins).2 haddr
      rw [if_neg (by rw [hsix]; decide), if_neg (by rw [hsix]; decide), if_pos hsix,
        if_neg (by omega), hoctets, hport, hnext]

end

/-! ## Candidates -/

namespace IceCandidate

/-- The fixed part of a candidate. -/
def headBytes (candidate : IceCandidate) : List UInt8 :=
  candidate.foundation.toList ++ ([candidate.component, candidate.transport.toByte,
    candidate.candidateType.toByte, candidate.relayProvider.toByte] ++
    (beBytes 4 candidate.priority.toNat ++ beBytes 2 candidate.port.toNat))

def toBytes (candidate : IceCandidate) : List UInt8 :=
  candidate.headBytes ++ (candidate.ip.toBytes ++ relatedBytes candidate.relatedAddress)

def encode (candidate : IceCandidate) : Except ProtocolError (List UInt8) :=
  match candidate.validate with
  | .error e => .error e
  | .ok () => .ok candidate.toBytes

/-- The part of `decode` behind the codes. -/
def decodeAddresses (bytes : List UInt8) (transport : TransportProtocol)
    (candidateType : CandidateType) (relayProvider : RelayProvider) :
    Except ProtocolError IceCandidate :=
  match decodeIp bytes 18 with
  | .error e => .error e
  | .ok (ip, cursor) =>
    match decodeRelated bytes cursor with
    | .error e => .error e
    | .ok (relatedAddress, cursor) =>
      if cursor ≠ bytes.length then
        .error (.payloadLength cursor bytes.length)
      else
        let candidate : IceCandidate :=
          { foundation := readBytes 8 bytes 0
            component := bytes.getD 8 0
            transport := transport
            priority := readU32 bytes 12
            candidateType := candidateType
            relayProvider := relayProvider
            ip := ip
            port := readU16 bytes 16
            relatedAddress := relatedAddress }
        match candidate.validate with
        | .error e => .error e
        | .ok () => .ok candidate

def decode (bytes : List UInt8) : Except ProtocolError IceCandidate :=
  if bytes.length < 19 then
    .error (.truncated 19 bytes.length)
  else
    match TransportProtocol.tryFrom (bytes.getD 9 0) with
    | .error e => .error e
    | .ok transport =>
      match CandidateType.tryFrom (bytes.getD 10 0) with
      | .error e => .error e
      | .ok candidateType =>
        match RelayProvider.tryFrom (bytes.getD 11 0) with
        | .error e => .error e
        | .ok relayProvider => decodeAddresses bytes transport candidateType relayProvider

variable {candidate : IceCandidate} {bytes : List UInt8}

theorem length_headBytes (candidate : IceCandidate) : candidate.headBytes.length = 18 := by
  simp [headBytes]

theorem length_toBytes (candidate : IceCandidate) :
    19 ≤ candidate.toBytes.length ∧ candidate.toBytes.length < 65536 := by
  obtain ⟨_, _, _, _, _, _, ip, _, related⟩ := candidate
  rw [toBytes, length_append, length_headBytes]
  cases ip <;> match related with
  | none | some (.v4 _, _) | some (.v6 _, _) => simp [WireIpAddr.toBytes, relatedBytes]

/-- The fixed part, field by field. -/
theorem slice_eq_headBytes (h : 18 ≤ bytes.length) :
    slice bytes 0 18 = candidate.headBytes ↔
      readBytes 8 bytes 0 = candidate.foundation ∧ bytes.getD 8 0 = candidate.component ∧
        bytes.getD 9 0 = candidate.transport.toByte ∧
        bytes.getD 10 0 = candidate.candidateType.toByte ∧
        bytes.getD 11 0 = candidate.relayProvider.toByte ∧
        readU32 bytes 12 = candidate.priority ∧ readU16 bytes 16 = candidate.port := by
  rw [headBytes, show 18 = 8 + (4 + 2 + 1 + 1 + 1 + 1) from rfl,
    slice_eq_field (4 + 2 + 1 + 1 + 1 + 1) (readBytes_eq_iff (by omega))
      candidate.foundation.toList_length, cons_append, cons_append, cons_append, cons_append,
    nil_append, slice_eq_cons (by omega), slice_eq_cons (by omega), slice_eq_cons (by omega),
    slice_eq_cons (by omega), slice_eq_field 2 (word32_eq_iff (by omega)) length_beBytes,
    ← word16_eq_iff (by omega)]
  rfl

/-- The whole candidate, part by part. -/
theorem eq_toBytes_iff :
    bytes = candidate.toBytes ↔ 19 ≤ bytes.length ∧ slice bytes 0 18 = candidate.headBytes ∧
      ∃ cursor, decodeIp bytes 18 = .ok (candidate.ip, cursor) ∧
        decodeRelated bytes cursor = .ok (candidate.relatedAddress, bytes.length) := by
  have hlong := candidate.length_toBytes.1
  rw [toBytes, length_append, length_append, length_headBytes] at hlong
  rw [eq_iff_slice, toBytes, length_append, length_append, length_headBytes,
    slice_eq_append candidate.length_headBytes, slice_eq_append rfl]
  constructor
  · intro ⟨hlen, hhead, hip, hrelated⟩
    refine ⟨by omega, hhead, _, (decodeIp_eq_ok (by omega)).2 ⟨hip, rfl⟩, ?_⟩
    have hcursor := le_of_slice_eq hip rfl (by omega)
    exact (decodeRelated_eq_ok hcursor).2 ⟨hrelated, by omega⟩
  · intro ⟨hlen, hhead, cursor, hip, hrelated⟩
    obtain ⟨hipSlice, rfl⟩ := (decodeIp_eq_ok (by omega)).1 hip
    have hcursor := le_of_slice_eq hipSlice rfl (by omega)
    obtain ⟨hrelatedSlice, hend⟩ := (decodeRelated_eq_ok hcursor).1 hrelated
    exact ⟨by omega, hhead, hipSlice, hrelatedSlice⟩

theorem encode_eq_ok :
    candidate.encode = .ok bytes ↔ candidate.validate = .ok () ∧ bytes = candidate.toBytes := by
  unfold encode
  cases candidate.validate with
  | error e => simp
  | ok => simp [eq_comm]

theorem decodeAddresses_eq_ok {relayProvider : RelayProvider} :
    decodeAddresses bytes transport candidateType relayProvider = .ok candidate ↔
      candidate.validate = .ok () ∧ readBytes 8 bytes 0 = candidate.foundation ∧
        bytes.getD 8 0 = candidate.component ∧ transport = candidate.transport ∧
        candidateType = candidate.candidateType ∧ relayProvider = candidate.relayProvider ∧
        readU32 bytes 12 = candidate.priority ∧ readU16 bytes 16 = candidate.port ∧
        ∃ cursor, decodeIp bytes 18 = .ok (candidate.ip, cursor) ∧
          decodeRelated bytes cursor = .ok (candidate.relatedAddress, bytes.length) := by
  unfold decodeAddresses
  constructor
  · intro h
    split at h
    · cases h
    next ip cursor hip =>
    split at h
    · cases h
    next related stop hrelated =>
    split_ifs at h with hend
    rw [not_not] at hend
    subst hend
    dsimp only at h
    split at h
    · cases h
    next hval =>
    cases h
    exact ⟨hval, rfl, rfl, rfl, rfl, rfl, rfl, rfl, cursor, hip, hrelated⟩
  · intro ⟨hval, hfoundation, hcomponent, htransport, htype, hprovider, hprio, hport, cursor,
      hip, hrelated⟩
    rw [hip]
    dsimp only
    rw [hrelated]
    dsimp only
    rw [if_neg (not_not.2 rfl), hfoundation, hcomponent, htransport, htype, hprovider, hprio,
      hport, hval]

/-- A candidate has one wire form. -/
theorem decode_eq_ok : decode bytes = .ok candidate ↔ candidate.encode = .ok bytes := by
  rw [encode_eq_ok, eq_toBytes_iff]
  unfold decode
  split
  · exact iff_of_false nofun fun h => by omega
  rw [slice_eq_headBytes (by omega)]
  constructor
  · intro h
    split at h
    · cases h
    next htransport =>
    split at h
    · cases h
    next htype =>
    split at h
    · cases h
    next hprovider =>
    obtain ⟨hval, hfoundation, hcomponent, rfl, rfl, rfl, hprio, hport, haddresses⟩ :=
      decodeAddresses_eq_ok.1 h
    exact ⟨hval, by omega, ⟨hfoundation, hcomponent,
      tryFrom_eq_ok.1 htransport, CandidateType.tryFrom_eq_ok.1 htype,
      RelayProvider.tryFrom_eq_ok.1 hprovider, hprio, hport⟩, haddresses⟩
  · intro ⟨hval, _, ⟨hfoundation, hcomponent, htransport, htype, hprovider, hprio, hport⟩,
      haddresses⟩
    rw [tryFrom_eq_ok.2 htransport, CandidateType.tryFrom_eq_ok.2 htype,
      RelayProvider.tryFrom_eq_ok.2 hprovider]
    exact decodeAddresses_eq_ok.2
      ⟨hval, hfoundation, hcomponent, rfl, rfl, rfl, hprio, hport, haddresses⟩

end IceCandidate

/-! ## Exchanges -/

structure CandidateExchange where
  version : UInt8
  exchangeId : UInt64
  generation : UInt32
  candidates : List IceCandidate
deriving DecidableEq

def WireIpAddr.isV4 : WireIpAddr → Bool
  | .v4 _ => true
  | .v6 _ => false

/-- The endpoint that two candidates must not share. -/
def sameEndpoint (prior candidate : IceCandidate) : Bool :=
  prior.component == candidate.component && prior.transport == candidate.transport &&
    prior.ip == candidate.ip && prior.port == candidate.port

namespace CandidateExchange

/-- `CandidateExchange::VERSION`. -/
def currentVersion : UInt8 := 1

def maxCandidates : Nat := 8

def headerLen : Nat := 14

/-- The checks of `validate` on one candidate behind the prior ones. -/
def validateCandidate (firstFamily : Bool) (prior : List IceCandidate) (candidate : IceCandidate) :
    Except ProtocolError Unit :=
  match candidate.validate with
  | .error e => .error e
  | .ok () =>
    if candidate.transport = .tcp then
      .error .unsupportedCandidateTransport
    else if candidate.candidateType = .peerReflexive then
      .error .unsupportedCandidateType
    else if candidate.candidateType = .relayed ∧ candidate.relayProvider ≠ .turn then
      .error .invalidCandidateRelayProvider
    else if candidate.ip.isV4 ≠ firstFamily then
      .error .mixedCandidateAddressFamily
    else if candidate.relatedAddress.any fun related => related.1.isV4 ≠ firstFamily then
      .error .relatedCandidateAddressFamily
    else if prior.any (sameEndpoint · candidate) then
      .error .duplicateCandidate
    else
      .ok ()

def validateCandidates (firstFamily : Bool) (prior : List IceCandidate) :
    List IceCandidate → Except ProtocolError Unit
  | [] => .ok ()
  | candidate :: rest =>
    match validateCandidate firstFamily prior candidate with
    | .error e => .error e
    | .ok () => validateCandidates firstFamily (prior ++ [candidate]) rest

def validate (exchange : CandidateExchange) : Except ProtocolError Unit :=
  if exchange.version ≠ currentVersion then
    .error (.unsupportedVersion exchange.version)
  else if exchange.exchangeId = 0 then
    .error .invalidCandidateExchangeId
  else if exchange.generation = 0 then
    .error .invalidCandidateGeneration
  else
    match exchange.candidates with
    | [] => .error (.candidateExchangeCount 0)
    | first :: rest =>
      if maxCandidates < (first :: rest).length then
        .error (.candidateExchangeCount (first :: rest).length)
      else
        validateCandidates first.ip.isV4 [] (first :: rest)

/-- The loop of `encode`. -/
def encodeCandidates : List IceCandidate → Except ProtocolError (List UInt8)
  | [] => .ok []
  | candidate :: rest =>
    match candidate.encode with
    | .error e => .error e
    | .ok encoded =>
      match encodeCandidates rest with
      | .error e => .error e
      | .ok body => .ok (beBytes 2 encoded.length ++ (encoded ++ body))

def headerBytes (exchange : CandidateExchange) : List UInt8 :=
  exchange.version :: (beBytes 8 exchange.exchangeId.toNat ++
    (beBytes 4 exchange.generation.toNat ++ [UInt8.ofNat exchange.candidates.length]))

def encode (exchange : CandidateExchange) : Except ProtocolError (List UInt8) :=
  match exchange.validate with
  | .error e => .error e
  | .ok () =>
    match encodeCandidates exchange.candidates with
    | .error e => .error e
    | .ok body =>
      let out := exchange.headerBytes ++ body
      if maxControlBytes < out.length then .error (.candidateExchangeLength out.length)
      else .ok out

/-- The loop of `decode`: `count` candidates from the cursor on. -/
def decodeCandidates (bytes : List UInt8) :
    Nat → Nat → Except ProtocolError (List IceCandidate × Nat)
  | 0, cursor => .ok ([], cursor)
  | count + 1, cursor =>
    if bytes.length < cursor + 2 then
      .error (.truncated (cursor + 2) bytes.length)
    else
      let len := (readU16 bytes cursor).toNat
      let cursor := cursor + 2
      if bytes.length < cursor + len then
        .error (.truncated (cursor + len) bytes.length)
      else
        match IceCandidate.decode (slice bytes cursor len) with
        | .error e => .error e
        | .ok candidate =>
          match decodeCandidates bytes count (cursor + len) with
          | .error e => .error e
          | .ok (candidates, cursor) => .ok (candidate :: candidates, cursor)

/-- The part of `decode` behind the header. -/
def decodeBody (bytes : List UInt8) : Except ProtocolError CandidateExchange :=
  match decodeCandidates bytes (bytes.getD 13 0).toNat headerLen with
  | .error e => .error e
  | .ok (candidates, cursor) =>
    if cursor ≠ bytes.length then
      .error (.payloadLength cursor bytes.length)
    else
      let exchange : CandidateExchange :=
        { version := bytes.getD 0 0
          exchangeId := readU64 bytes 1
          generation := readU32 bytes 9
          candidates := candidates }
      match exchange.validate with
      | .error e => .error e
      | .ok () => .ok exchange

def decode (bytes : List UInt8) : Except ProtocolError CandidateExchange :=
  if bytes.length < headerLen then
    .error (.truncated headerLen bytes.length)
  else if maxControlBytes < bytes.length then
    .error (.candidateExchangeLength bytes.length)
  else if bytes.getD 0 0 ≠ currentVersion then
    .error (.unsupportedVersion (bytes.getD 0 0))
  else
    let count := (bytes.getD 13 0).toNat
    if count = 0 ∨ maxCandidates < count then
      .error (.candidateExchangeCount count)
    else
      decodeBody bytes

variable {bytes : List UInt8} {candidates : List IceCandidate} {exchange : CandidateExchange}

/-- The candidates are read from the bytes that they are written as. -/
theorem decodeCandidates_eq_ok {cursor next : Nat} (hcursor : cursor ≤ bytes.length) :
    decodeCandidates bytes candidates.length cursor = .ok (candidates, next) ↔
      ∃ body, encodeCandidates candidates = .ok body ∧ slice bytes cursor body.length = body ∧
        next = cursor + body.length := by
  induction candidates generalizing cursor with
  | nil =>
    show ok (([] : List IceCandidate), cursor) = .ok ([], next) ↔ _
    simp [encodeCandidates, slice, eq_comm]
  | cons candidate rest ih =>
    rw [length_cons, decodeCandidates, encodeCandidates]
    dsimp only
    constructor
    · intro h
      split_ifs at h with hlong
      split at h
      · cases h
      next decoded hdec =>
      split at h
      · cases h
      next others stop hrest =>
      obtain ⟨⟨rfl, rfl⟩, rfl⟩ := h
      obtain ⟨body, hbody, hslice, hnext⟩ := (ih (by omega)).1 hrest
      have henc := decode_eq_ok.1 hdec
      have hlen : (slice bytes (cursor + 2) (readU16 bytes cursor).toNat).length =
          (readU16 bytes cursor).toNat := length_slice (by omega)
      rw [henc, hbody]
      refine ⟨_, rfl, ?_, ?_⟩
      · have hword : slice bytes cursor 2 = beBytes 2 (readU16 bytes cursor).toNat :=
          (word16_eq_iff (by omega)).1 rfl
        rw [length_append, length_append, length_beBytes,
          slice_eq_append length_beBytes, slice_eq_append rfl, hlen]
        exact ⟨hword, rfl, hslice⟩
      · rw [length_append, length_append, length_beBytes]
        omega
    · rintro ⟨_, hout, hslice, hnext⟩
      split at hout
      · cases hout
      next encoded henc =>
      split at hout
      · cases hout
      next body hbody =>
      cases hout
      have hins := le_of_slice_eq hslice rfl hcursor
      rw [length_append, length_append, length_beBytes] at hslice hins hnext
      rw [slice_eq_append length_beBytes, slice_eq_append rfl] at hslice
      obtain ⟨hlen, hcand, hrest⟩ := hslice
      have hbytes := (encode_eq_ok.1 henc).2
      have hsmall : encoded.length < 2 ^ 16 := by
        rw [hbytes]
        exact candidate.length_toBytes.2
      have hword : (readU16 bytes cursor).toNat = encoded.length :=
        (length16_eq_iff (by omega) hsmall).2 hlen
      rw [if_neg (by omega), hword, if_neg (by omega), hcand,
        decode_eq_ok.2 henc]
      rw [(ih (by omega)).2 ⟨body, hbody, hrest, by omega⟩]

theorem length_of_decodeCandidates {count cursor next : Nat}
    (h : decodeCandidates bytes count cursor = .ok (candidates, next)) :
    candidates.length = count := by
  induction count generalizing candidates cursor with
  | zero =>
    cases h
    rfl
  | succ count ih =>
    rw [decodeCandidates] at h
    dsimp only at h
    split_ifs at h
    split at h
    · cases h
    split at h
    · cases h
    next hrest =>
    cases h
    rw [length_cons, ih hrest]

theorem validate_eq_ok (h : exchange.validate = .ok ()) :
    exchange.version = currentVersion ∧ 0 < exchange.candidates.length ∧
      exchange.candidates.length ≤ maxCandidates := by
  unfold validate at h
  split_ifs at h with hver
  split at h
  · cases h
  next first rest hcands =>
  split_ifs at h with hcount
  rw [hcands]
  exact ⟨not_not.1 hver, Nat.succ_pos _, Nat.le_of_not_lt hcount⟩

theorem length_headerBytes (exchange : CandidateExchange) :
    exchange.headerBytes.length = headerLen := by
  simp [headerBytes, headerLen]

/-- The header, field by field. -/
theorem slice_eq_headerBytes (h : headerLen ≤ bytes.length)
    (hcount : exchange.candidates.length ≤ maxCandidates) :
    slice bytes 0 headerLen = exchange.headerBytes ↔
      bytes.getD 0 0 = exchange.version ∧ readU64 bytes 1 = exchange.exchangeId ∧
        readU32 bytes 9 = exchange.generation ∧
        (bytes.getD 13 0).toNat = exchange.candidates.length := by
  unfold headerLen at h
  unfold maxCandidates at hcount
  have hcountByte : bytes.getD 13 0 = UInt8.ofNat exchange.candidates.length ↔
      (bytes.getD 13 0).toNat = exchange.candidates.length := by
    rw [← UInt8.toNat_inj, UInt8.toNat_ofNat_of_lt' (show _ < 256 by omega)]
  rw [headerBytes, show headerLen = 8 + (4 + 1) + 1 from rfl, slice_eq_cons (by omega),
    slice_eq_field (4 + 1) (word64_eq_iff (by omega)) length_beBytes,
    slice_eq_field 1 (word32_eq_iff (by omega)) length_beBytes, slice_one (by omega),
    cons.injEq, and_iff_left rfl]
  exact and_congr_right' (and_congr_right' (and_congr_right' hcountByte))

theorem encode_eq_ok :
    exchange.encode = .ok bytes ↔ exchange.validate = .ok () ∧ bytes.length ≤ maxControlBytes ∧
      ∃ body, encodeCandidates exchange.candidates = .ok body ∧
        bytes = exchange.headerBytes ++ body := by
  unfold encode
  constructor
  · intro h
    split at h
    · cases h
    next hval =>
    split at h
    · cases h
    next body hbody =>
    dsimp only at h
    split_ifs at h with hlen
    cases h
    exact ⟨hval, Nat.le_of_not_lt hlen, body, hbody, rfl⟩
  · intro ⟨hval, hlen, body, hbody, hbytes⟩
    rw [hval, hbody]
    dsimp only
    rw [← hbytes, if_neg (Nat.not_lt.2 hlen)]

theorem decodeBody_eq_ok :
    decodeBody bytes = .ok exchange ↔ exchange.validate = .ok () ∧
      bytes.getD 0 0 = exchange.version ∧ readU64 bytes 1 = exchange.exchangeId ∧
      readU32 bytes 9 = exchange.generation ∧
      decodeCandidates bytes (bytes.getD 13 0).toNat headerLen =
        .ok (exchange.candidates, bytes.length) := by
  unfold decodeBody
  constructor
  · intro h
    split at h
    · cases h
    next candidates cursor hcands =>
    split_ifs at h with hend
    rw [not_not] at hend
    subst hend
    dsimp only at h
    split at h
    · cases h
    next hval =>
    cases h
    exact ⟨hval, rfl, rfl, rfl, hcands⟩
  · intro ⟨hval, hver, hid, hgen, hcands⟩
    rw [hcands]
    dsimp only
    rw [if_neg (not_not.2 rfl), hver, hid, hgen, hval]

/-- An exchange has one wire form. -/
theorem decode_eq_ok : decode bytes = .ok exchange ↔ exchange.encode = .ok bytes := by
  rw [encode_eq_ok]
  unfold decode
  constructor
  · intro h
    dsimp only at h
    split_ifs at h with hshort hlong
    obtain ⟨hval, hfields, hid, hgen, hcands⟩ := decodeBody_eq_ok.1 h
    have hlen := length_of_decodeCandidates hcands
    rw [← hlen] at hcands
    obtain ⟨body, hbody, hslice, hend⟩ :=
      (decodeCandidates_eq_ok (Nat.le_of_not_lt hshort)).1 hcands
    refine ⟨hval, Nat.le_of_not_lt hlong, body, hbody, ?_⟩
    rw [eq_iff_slice, length_append, length_headerBytes,
      slice_eq_append exchange.length_headerBytes]
    refine ⟨hend, ?_, hslice⟩
    rw [slice_eq_headerBytes (Nat.le_of_not_lt hshort) (validate_eq_ok hval).2.2]
    exact ⟨hfields, hid, hgen, hlen.symm⟩
  · intro ⟨hval, hlong, body, hbody, hbytes⟩
    obtain ⟨hver, hpos, hmax⟩ := validate_eq_ok hval
    rw [eq_iff_slice, length_append, length_headerBytes,
      slice_eq_append exchange.length_headerBytes] at hbytes
    obtain ⟨hend, hhdr, hslice⟩ := hbytes
    have hshort : headerLen ≤ bytes.length := by omega
    obtain ⟨hfields, hid, hgen, hlen⟩ := (slice_eq_headerBytes hshort hmax).1 hhdr
    have hcands := (decodeCandidates_eq_ok hshort).2 ⟨body, hbody, hslice, hend⟩
    rw [← hlen] at hcands
    rw [if_neg (by omega), if_neg (by omega), if_neg (not_not.2 (hfields.trans hver)),
      if_neg (by omega)]
    exact decodeBody_eq_ok.2 ⟨hval, hfields, hid, hgen, hcands⟩

end CandidateExchange

end LatencyDesk.Protocol
