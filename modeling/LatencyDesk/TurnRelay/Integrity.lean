import LatencyDesk.TurnRelay.Wire

/-!
# What the integrity attribute covers

Two facts about the codec, with the keyed hash an arbitrary function.

* A message that was encoded with a key verifies under the key, and what comes
  out is the message followed by its integrity attribute.  The proof goes
  through the layout of one attribute (`attributeBytes`): a read at the place
  of such bytes gives the attribute back, and so the two loops run over an
  encoded list as the encoder ran over the attributes.
* Of the bytes that verify, the integrity attribute is the last, and its value
  is the hash of everything before it.  The other attributes of the message are
  the ones that the decoder finds in the covered bytes alone.

`integrity_binds` states both.
-/

namespace LatencyDesk.TurnRelay

open Lib Protocol List AttributeKind Nat Except

/-! ## One attribute -/

/-- An attribute on the wire. -/
def attributeBytes (kind : UInt16) (value : List UInt8) : List UInt8 :=
  beBytes 2 kind.toNat ++ (beBytes 2 value.length ++
    (value ++ List.replicate (paddingLen value.length) 0))

variable (kind : UInt16) (value : List UInt8)

theorem length_attributeBytes :
    (attributeBytes kind value).length = 4 + value.length + paddingLen value.length := by
  simp [attributeBytes]
  omega

theorem length_attributeBytes_mod :
    (attributeBytes kind value).length % 4 = 0 := by
  rw [length_attributeBytes, paddingLen]
  omega

variable {bytes input output out value : List UInt8} {cursor stop next : Nat} {kind : UInt16}
  {item : Attribute} {transactionId : Bytes 12} {header : Header} {seen : List UInt16}
  {attributes : List Attribute} {message : Message}

theorem appendAttribute_eq_ok :
    appendAttribute output kind value = .ok out ↔
      value.length ≤ 65535 ∧ out.length ≤ maxDatagramBytes ∧
        out = output ++ attributeBytes kind value := by
  have hlen := length_attributeBytes kind value
  unfold appendAttribute attributeHeaderLen
  dsimp only
  constructor
  · intro h
    split_ifs at h with hlong
    cases h
    refine ⟨by omega, ?_, rfl⟩
    rw [length_append, ← attributeBytes]
    omega
  · intro ⟨hlong, htotal, hout⟩
    rw [hout, length_append] at htotal
    rw [if_neg (by omega), if_neg (by omega), hout, attributeBytes]

/-- A read at the place of an attribute. -/
theorem readRawAttribute_of_slice (hcursor : cursor ≤ bytes.length) (hvalue : value.length ≤ 65535)
    (hslice : slice bytes cursor (attributeBytes kind value).length = attributeBytes kind value)
    (hstop : cursor + (attributeBytes kind value).length ≤ stop) :
    readRawAttribute bytes cursor stop =
      .ok (kind, value, cursor + (attributeBytes kind value).length) := by
  have hins := le_of_slice_eq hslice rfl hcursor
  have hparts := hslice
  rw [length_attributeBytes] at hstop hins hparts ⊢
  rw [attributeBytes, show 4 + value.length + paddingLen value.length =
      2 + (2 + (value.length + paddingLen value.length)) by omega,
    slice_eq_field _ (word16_eq_iff (by omega)) length_beBytes,
    slice_eq_field _ (length16_eq_iff (by omega) (by omega)) length_beBytes,
    slice_eq_append rfl] at hparts
  obtain ⟨hkind, hlen, hbody, _⟩ : readU16 bytes cursor = kind ∧
    (readU16 bytes (cursor + 2)).toNat = value.length ∧ _ := hparts
  unfold readRawAttribute attributeHeaderLen
  rw [hkind, hlen, if_neg (by omega), if_neg (by omega), if_neg (by omega)]
  rw [hbody, show cursor + 4 + value.length + paddingLen value.length =
    cursor + (4 + value.length + paddingLen value.length) by omega]

variable {start : Nat}

/-- A read sees the bytes that it consumes. -/
theorem readRawAttribute_take (h : readRawAttribute bytes cursor stop = .ok (kind, value, next))
    (hnext : next ≤ start) :
    readRawAttribute (bytes.take start) cursor start = .ok (kind, value, next) := by
  unfold readRawAttribute attributeHeaderLen at h ⊢
  dsimp only at h
  split_ifs at h with hpadding
  cases h
  have hkind : readU16 (bytes.take start) cursor = readU16 bytes cursor :=
    congrArg (fun part => UInt16.ofNat (beNat part)) (slice_take (by omega))
  have hlen : readU16 (bytes.take start) (cursor + 2) = readU16 bytes (cursor + 2) :=
    congrArg (fun part => UInt16.ofNat (beNat part)) (slice_take (by omega))
  rw [hkind, hlen, if_neg (by omega), if_neg (by omega), if_neg (by omega),
    slice_take (by omega)]

/-- What a read of 32 bytes consumed, when it got to the end of the input. -/
theorem drop_of_readRawAttribute (hvalue : value.length = 32)
    (h : readRawAttribute bytes cursor bytes.length = .ok (kind, value, bytes.length)) :
    cursor + 36 = bytes.length ∧ bytes.drop cursor = attributeBytes kind value := by
  unfold readRawAttribute attributeHeaderLen at h
  dsimp only at h
  split_ifs at h with hpadding
  simp only [ok.injEq, Prod.mk.injEq] at h
  obtain ⟨hkind, hbody, hend⟩ := h
  have hlen : (readU16 bytes (cursor + 2)).toNat = 32 := by
    rw [← hvalue, ← hbody, length_slice (by omega)]
  have hpad : paddingLen 32 = 0 := rfl
  rw [hlen] at hbody hend
  refine ⟨by omega, ?_⟩
  rw [← slice_eq_drop (show bytes.length ≤ cursor + (2 + (2 + (32 + 0))) by omega), attributeBytes,
    slice_eq_append length_beBytes, slice_eq_append length_beBytes,
    slice_eq_append hvalue, hvalue]
  exact ⟨(word16_eq_iff (by omega)).1 hkind, (length16_eq_iff (by omega) (by omega)).1 hlen,
    hbody, rfl⟩

/-! ## Values -/

/-- An address that the wire carries. -/
def SocketAddr.Carried (address : SocketAddr) : Prop := address.port ≠ 0 ∧ address.Plain

/-- The addresses of the attribute have a port, and no scope or flow label. -/
def Attribute.Carried : Attribute → Prop
  | .xorPeerAddress address => address.Carried
  | .xorRelayedAddress address => address.Carried
  | .xorMappedAddress address => address.Carried
  | _ => True

variable {n : Nat}

theorem maskOctets_maskOctets (octets mask : Bytes n) :
    maskOctets (maskOctets octets mask) mask = octets := by
  refine List.Vector.ext fun i => ?_
  rw [maskOctets, maskOctets, List.Vector.zipWith_get, List.Vector.zipWith_get, UInt8.xor_assoc,
    UInt8.xor_self, UInt8.xor_zero]

theorem readBytes_toList (octets : Bytes n) : readBytes n octets.toList 0 = octets := by
  have hlen := octets.toList_length
  rw [readBytes_eq_iff (by omega), slice_eq_drop (by omega), drop_zero]

theorem port_xor_xor (port : UInt16) : port ^^^ portMask ^^^ portMask = port := by
  rw [UInt16.xor_assoc, UInt16.xor_self, UInt16.xor_zero]

/-- The fields of an encoded address. -/
theorem read_address {family : UInt8} {word : UInt16} {octets : Bytes n} :
    let value := 0 :: family :: (beBytes 2 word.toNat ++ octets.toList)
    value.length = 4 + n ∧ readU16 value 2 = word ∧ value.getD 1 0 = family ∧
      readBytes n value 4 = octets := by
  intro value
  have hlen : value.length = 4 + n := by
    simp only [value, length_cons, length_append, length_beBytes, List.Vector.toList_length]
    omega
  have hparts : slice value 2 (2 + n) = beBytes 2 word.toNat ++ octets.toList := by
    rw [slice_eq_drop (by omega)]
    rfl
  rw [slice_eq_field n (word16_eq_iff (by omega)) length_beBytes,
    ← readBytes_eq_iff (by omega)] at hparts
  exact ⟨hlen, hparts.1, rfl, hparts.2⟩

theorem decodeXorAddress_encodeXorAddress {address : SocketAddr} (h : address.Carried) :
    decodeXorAddress (encodeXorAddress address transactionId) transactionId = .ok address := by
  obtain ⟨hport, hplain⟩ := h
  unfold decodeXorAddress encodeXorAddress
  split
  · next octets hip =>
    obtain ⟨hlen, hword, hfamily, hoctets⟩ :=
      read_address
    rw [hlen, hword, hoctets, port_xor_xor, maskOctets_maskOctets, if_neg (by decide),
      if_neg hport, if_pos ⟨rfl, rfl⟩, ← hip, ← hplain]
  · next octets hip =>
    obtain ⟨hlen, hword, hfamily, hoctets⟩ := read_address
    rw [hlen, hword, hfamily, hoctets, port_xor_xor, maskOctets_maskOctets,
      if_neg (by decide), if_neg hport, if_neg (by decide), if_pos ⟨rfl, rfl⟩, ← hip, ← hplain]

variable {max : Nat}

theorem boundedText_eq_ok {min : Nat} (h : boundedText value min max = .ok out) :
    out = value := by
  unfold boundedText at h
  split_ifs at h
  exact (ok.inj h).symm

theorem textAttribute_eq_ok {kind kind' : UInt16}
    (h : textAttribute kind value max = .ok (kind', out)) :
    kind' = kind ∧ out = value ∧ boundedText value 1 max = .ok value := by
  unfold textAttribute at h
  split at h
  · cases h
  next text htext =>
  cases h
  obtain rfl := boundedText_eq_ok htext
  exact ⟨rfl, rfl, htext⟩

theorem decodeText_of_bounded {item : List UInt8 → Attribute}
    (h : boundedText value 1 max = .ok value) :
    decodeText value max item = .ok (some (item value)) := by
  rw [decodeText, h]

/-- The two bytes of an error code, for every code that is sent. -/
theorem errorCode_split : ∀ n : Fin 400,
    let code := UInt16.ofNat (300 + n.val)
    let kind := (code / 100).toUInt8 &&& 0x07
    let number := (code % 100).toUInt8
    (3 ≤ kind ∧ kind ≤ 6) ∧ number ≤ 99 ∧ kind.toUInt16 * 100 + number.toUInt16 = code := by
  decide +kernel

theorem decodeErrorCode_encode {code : UInt16} {reason : String}
    (hcode : 300 ≤ code ∧ code ≤ 699) (hreason : reason.length < 128) :
    decodeErrorCode (0 :: 0 :: (code / 100).toUInt8 :: (code % 100).toUInt8 :: utf8Bytes reason) =
      .ok (some (.errorCode code reason)) := by
  have hlow : 300 ≤ code.toNat := UInt16.le_iff_toNat_le.1 hcode.1
  have hhigh : code.toNat ≤ 699 := UInt16.le_iff_toNat_le.1 hcode.2
  have hsplit := errorCode_split ⟨code.toNat - 300, by omega⟩
  rw [show 300 + (code.toNat - 300) = code.toNat by omega, UInt16.ofNat_toNat] at hsplit
  obtain ⟨hkind, hnum, hsum⟩ := hsplit
  unfold decodeErrorCode
  simp only [getD_cons_succ, getD_cons_zero, drop_succ_cons, drop_zero, fromUtf8_utf8Bytes]
  rw [hsum, if_neg, if_neg]
  · exact not_or.2 ⟨not_not.2 hcode, not_le.2 hreason⟩
  · exact not_or.2 ⟨not_not.2 hkind, UInt8.not_lt.2 hnum⟩

/-- The integrity attribute is the one of its kind. -/
def Attribute.isIntegrity : Attribute → Bool
  | .messageIntegritySha256 _ => true
  | _ => false

theorem decodeAttribute_integrity :
    decodeAttribute messageIntegritySha256 value transactionId =
      if value.length = 32 then .ok (some (.messageIntegritySha256 (readBytes 32 value 0)))
      else decodeOther messageIntegritySha256 := by
  show (if messageIntegritySha256 = _ ∧ value.length = 32 then _ else _) = _
  by_cases hlen : value.length = 32
  · rw [if_pos hlen, if_pos ⟨rfl, hlen⟩]
  · rw [if_neg hlen, if_neg (fun hboth => hlen hboth.2)]
    rfl

/-- An attribute that was encoded is decoded to itself. -/
theorem decodeAttribute_encodeAttribute (hitem : item.Carried)
    (h : encodeAttribute item transactionId = .ok (kind, value)) :
    decodeAttribute kind value transactionId = .ok (some item) := by
  cases item with
  | username text =>
    obtain ⟨rfl, rfl, htext⟩ := textAttribute_eq_ok h
    exact decodeText_of_bounded htext
  | realm text =>
    obtain ⟨rfl, rfl, htext⟩ := textAttribute_eq_ok h
    exact decodeText_of_bounded htext
  | nonce text =>
    obtain ⟨rfl, rfl, htext⟩ := textAttribute_eq_ok h
    exact decodeText_of_bounded htext
  | messageIntegritySha256 digest =>
    cases h
    rw [decodeAttribute_integrity, if_pos digest.toList_length, readBytes_toList]
  | requestedTransport protocol =>
    cases h
    rfl
  | lifetime seconds =>
    cases h
    have hlen : (beBytes 4 seconds.toNat).length = 4 := length_beBytes
    have hread : readU32 (beBytes 4 seconds.toNat) 0 = seconds := by
      refine (word32_eq_iff (by omega)).2 ?_
      rw [slice_eq_drop (by omega), drop_zero]
    show ok (some (Attribute.lifetime (readU32 (beBytes 4 seconds.toNat) 0))) = _
    rw [hread]
  | xorPeerAddress address | xorRelayedAddress address | xorMappedAddress address =>
    cases h
    show decodeAddress _ _ _ = _
    rw [decodeAddress, decodeXorAddress_encodeXorAddress hitem]
  | channelNumber channel =>
    rw [encodeAttribute] at h
    split_ifs at h with hchan
    cases h
    have hlen : (beBytes 2 channel.toNat ++ [0, 0]).length = 4 := by
      rfl
    have hread : readU16 (beBytes 2 channel.toNat ++ [0, 0]) 0 = channel := by
      refine (word16_eq_iff (by omega)).2 ?_
      rw [slice, drop_zero, take_left' length_beBytes]
    show (if channelNumber = _ ∧ (beBytes 2 channel.toNat ++ [0, 0]).length = 4 ∧
        (channelMin ≤ readU16 (beBytes 2 channel.toNat ++ [0, 0]) 0 ∧
          readU16 (beBytes 2 channel.toNat ++ [0, 0]) 0 ≤ channelMax) then
      ok (some (Attribute.channelNumber (readU16 (beBytes 2 channel.toNat ++ [0, 0]) 0)))
      else _) = _
    rw [hread, if_pos ⟨rfl, hlen, hchan⟩]
  | data payload =>
    rw [encodeAttribute] at h
    split_ifs at h
    cases h
    rfl
  | errorCode code reason =>
    rw [encodeAttribute] at h
    split_ifs at h with hcode
    cases h
    rw [not_or, not_or, not_not, not_le] at hcode
    exact decodeErrorCode_encode hcode.1 hcode.2.1

theorem kind_ne_integrity (hitem : item.Carried ∧ item.isIntegrity = false)
    (h : encodeAttribute item transactionId = .ok (kind, value)) :
    kind ≠ messageIntegritySha256 := by
  rintro rfl
  have hdec := decodeAttribute_encodeAttribute hitem.1 h
  rw [decodeAttribute_integrity] at hdec
  split_ifs at hdec
  · cases hdec
    cases hitem.2
  · cases hdec

/-! ## The loops -/

variable {integritySeen : Bool} {integrity : Option (Nat × List UInt8)} {body : List UInt8}
  {method : Method}

theorem decodeAttributes_stop (h : stop ≤ cursor) :
    decodeAttributes input header stop cursor seen integritySeen attributes = .ok attributes := by
  rw [decodeAttributes, if_neg (not_lt.2 h)]

theorem decodeAttributes_step (h : cursor < stop)
    (hread : readRawAttribute input cursor stop = .ok (kind, value, next)) :
    decodeAttributes input header stop cursor seen integritySeen attributes =
      if integritySeen then .error .integrityPosition
      else if kind ∈ seen ∧ !repeatPeer header kind then .error (.duplicate kind)
      else
        match decodeAttribute kind value header.transactionId with
        | .error e => .error e
        | .ok item => decodeAttributes input header stop next (seen ++ [kind])
            (kind = messageIntegritySha256) (attributes ++ item.toList) := by
  rw [decodeAttributes, if_pos h]
  split
  · next e herror =>
    rw [hread] at herror
    cases herror
  · next kind' value' next' hok =>
    rw [hread] at hok
    cases hok
    rfl

theorem findIntegrity_stop (h : stop ≤ cursor) :
    findIntegrity input stop cursor integrity = .ok integrity := by
  rw [findIntegrity, if_neg (not_lt.2 h)]

theorem findIntegrity_step (h : cursor < stop)
    (hread : readRawAttribute input cursor stop = .ok (kind, value, next)) :
    findIntegrity input stop cursor integrity =
      if kind = messageIntegritySha256 then
        if value.length ≠ 32 ∨ next ≠ stop ∨ integrity.isSome then .error .integrityPosition
        else findIntegrity input stop next (some (cursor, value))
      else findIntegrity input stop next integrity := by
  rw [findIntegrity, if_pos h]
  split
  · next e herror =>
    rw [hread] at herror
    cases herror
  · next kind' value' next' hok =>
    rw [hread] at hok
    cases hok
    rfl

/-- A loop that got to its end read the attribute at the cursor. -/
theorem read_of_decodeAttributes {out : List Attribute} (h : cursor < stop)
    (hok : decodeAttributes input header stop cursor seen integritySeen attributes = .ok out) :
    ∃ kind value next, readRawAttribute input cursor stop = .ok (kind, value, next) := by
  rw [decodeAttributes, if_pos h] at hok
  split at hok
  · cases hok
  · next kind value next hread => exact ⟨kind, value, next, hread⟩

/-! ## Round trip -/

/-- Both loops run over encoded attributes as the encoder ran over the attributes. -/
theorem loops_of_encodeAttributes {items : List Attribute} (hitems : ∀ item ∈ items, item.Carried)
    (h : encodeAttributes header items seen output = .ok out) :
    ∃ body kinds, out = output ++ body ∧ body.length % 4 = 0 ∧
      ((∀ item ∈ items, item.isIntegrity = false) → messageIntegritySha256 ∉ kinds) ∧
      ∀ bytes cursor stop, cursor ≤ bytes.length →
        slice bytes cursor body.length = body → cursor + body.length ≤ stop →
        (∀ integritySeen attributes, (items ≠ [] → integritySeen = false) →
          decodeAttributes bytes header stop cursor seen integritySeen attributes =
            decodeAttributes bytes header stop (cursor + body.length) (seen ++ kinds)
              (integritySeen || messageIntegritySha256 ∈ kinds) (attributes ++ items)) ∧
        (messageIntegritySha256 ∉ kinds →
          findIntegrity bytes stop cursor none =
            findIntegrity bytes stop (cursor + body.length) none) := by
  induction items generalizing seen output with
  | nil =>
    cases h
    refine ⟨[], [], (append_nil _).symm, rfl, fun _ => not_mem_nil, fun _ _ _ _ _ _ => ?_⟩
    simp
  | cons item rest ih =>
    rw [forall_mem_cons] at hitems
    rw [encodeAttributes] at h
    split at h
    · cases h
    next kind value henc =>
    split at h
    · cases h
    next hduplicate =>
    split at h
    · cases h
    next hlast =>
    split at h
    · cases h
    next grown happend =>
    obtain ⟨hvalue, -, rfl⟩ := appendAttribute_eq_ok.1 happend
    obtain ⟨body, kinds, rfl, hmod, hkinds, hloops⟩ := ih hitems.2 h
    have hdec := decodeAttribute_encodeAttribute hitems.1 henc
    have hlen := length_attributeBytes kind value
    have hmod' := length_attributeBytes_mod kind value
    refine ⟨attributeBytes kind value ++ body, kind :: kinds,
      append_assoc _ _ _, ?_, ?_, fun bytes cursor stop hcursor hslice hstop => ?_⟩
    · rw [length_append]
      omega
    · rw [forall_mem_cons, mem_cons, not_or]
      exact fun hnone => ⟨(kind_ne_integrity ⟨hitems.1, hnone.1⟩ henc).symm, hkinds hnone.2⟩
    · rw [length_append, slice_eq_append rfl] at hslice
      rw [length_append] at hstop ⊢
      have hins := le_of_slice_eq hslice.1 rfl hcursor
      have hfirst : cursor + (attributeBytes kind value).length ≤ stop := by omega
      have hread := readRawAttribute_of_slice hcursor hvalue hslice.1 hfirst
      obtain ⟨hdecodeRest, hfindRest⟩ := hloops bytes _ stop hins hslice.2 (by omega)
      constructor
      · intro integritySeen attributes hfresh
        rw [hfresh (cons_ne_nil _ _), decodeAttributes_step (by omega) hread,
          if_neg Bool.false_ne_true, if_neg hduplicate, hdec]
        dsimp only
        rw [hdecodeRest _ _ fun hmore => decide_eq_false fun heq => hlast ⟨heq, hmore⟩]
        simp [eq_comm, add_assoc]
      · intro hother
        rw [mem_cons, not_or] at hother
        rw [findIntegrity_step (by omega) hread, if_neg (Ne.symm hother.1), hfindRest hother.2,
          add_assoc]

theorem decodeMethod_methodCode :
    decodeMethod (methodCode method) = some method := by
  cases method <;> rfl

theorem decodeType_encodeType (kind : Class) :
    decodeType (encodeType kind (methodCode method)) = some (kind, methodCode method) := by
  cases kind <;> cases method <;> rfl

/-- A header with its length. -/
def headerBytesWith (header : Header) (bodyLen : Nat) : List UInt8 :=
  beBytes 2 (encodeType header.kind (methodCode header.method)).toNat ++
    (beBytes 2 bodyLen ++ (magicCookie.toList ++ header.transactionId.toList))

theorem length_headerBytesWith (header : Header) (bodyLen : Nat) :
    (headerBytesWith header bodyLen).length = headerLen := by
  simp [headerBytesWith, headerLen]

theorem setLength_append {front old rest : List UInt8} (hfront : front.length = 2)
    (hold : old.length = 2) {length : Nat} :
    setLength (front ++ (old ++ rest)) length = front ++ (beBytes 2 length ++ rest) := by
  have hdrop : (front ++ (old ++ rest)).drop (2 + 2) = rest := by
    rw [← drop_drop, drop_left' hfront, drop_left' hold]
  rw [setLength, take_left' hfront, hdrop]

/-- Writing the length leaves the rest of the header and the body. -/
theorem setLength_headerBytesWith (old bodyLen : Nat) :
    setLength (headerBytesWith header old ++ body) bodyLen =
      headerBytesWith header bodyLen ++ body := by
  exact setLength_append length_beBytes length_beBytes

theorem decodeHeader_of_bytes (hval : validateHeader header = .ok ()) (hmod : body.length % 4 = 0)
    (hlong : (headerBytesWith header body.length ++ body).length ≤ maxDatagramBytes) :
    decodeHeader (headerBytesWith header body.length ++ body) = .ok (header, body.length) := by
  have hhdr := length_headerBytesWith header body.length
  have htotal : (headerBytesWith header body.length ++ body).length = 20 + body.length := by
    rw [length_append, hhdr]
    rfl
  rw [htotal, maxDatagramBytes] at hlong
  generalize hbytes : headerBytesWith header body.length ++ body = bytes at htotal
  have hparts : slice bytes 0 (2 + (2 + (4 + 12))) = headerBytesWith header body.length := by
    rw [← hbytes]
    exact take_left' hhdr
  rw [headerBytesWith, slice_eq_field (2 + (4 + 12)) (word16_eq_iff (by omega)) length_beBytes,
    slice_eq_field (4 + 12) (length16_eq_iff (by omega) (by omega)) length_beBytes,
    slice_eq_append magicCookie.toList_length] at hparts
  obtain ⟨htype, hlen, hcookie, hid⟩ :
      readU16 bytes 0 = _ ∧ (readU16 bytes 2).toNat = _ ∧ _ := hparts
  unfold decodeHeader
  rw [htotal, maxDatagramBytes, headerLen, if_neg (by omega), if_neg (by omega), htype,
    decodeType_encodeType]
  dsimp only
  rw [decodeMethod_methodCode]
  dsimp only
  rw [hlen, (readBytes_eq_iff (by omega)).2 hid, if_neg, hval]
  simp only [not_or, not_not]
  exact ⟨hcookie, hmod, trivial⟩

variable {bodyLen : Nat}

theorem length_of_decodeHeader (h : decodeHeader input = .ok (header, bodyLen)) :
    headerLen + bodyLen = input.length ∧ (readU16 input 2).toNat = bodyLen := by
  unfold decodeHeader at h
  dsimp only at h
  repeat' split at h
  all_goals cases h
  simp_all

variable {hmac : List UInt8 → List UInt8 → Bytes 32}

/-- The bytes of an encoded message, its attributes and its header. -/
theorem encode_eq_ok (hitems : ∀ item ∈ message.attributes, item.Carried)
    (h : encode message = .ok out) :
    validateHeader message.header = .ok () ∧
      ∃ body kinds, out = headerBytesWith message.header body.length ++ body ∧
        body.length % 4 = 0 ∧ headerLen + body.length ≤ maxDatagramBytes ∧
        ((∀ item ∈ message.attributes, item.isIntegrity = false) →
          messageIntegritySha256 ∉ kinds) ∧
        ∀ bytes stop, headerLen ≤ bytes.length →
          slice bytes headerLen body.length = body → headerLen + body.length ≤ stop →
          decodeAttributes bytes message.header stop headerLen [] false [] =
            decodeAttributes bytes message.header stop (headerLen + body.length) kinds
              (messageIntegritySha256 ∈ kinds) message.attributes ∧
          (messageIntegritySha256 ∉ kinds → findIntegrity bytes stop headerLen none =
            findIntegrity bytes stop (headerLen + body.length) none) := by
  unfold encode at h
  split at h
  · cases h
  next hval =>
  split at h
  · cases h
  next output houtput =>
  obtain ⟨body, kinds, rfl, hmod, hkinds, hloops⟩ := loops_of_encodeAttributes hitems houtput
  unfold finishLength at h
  dsimp only at h
  split_ifs at h with hlong
  have hlen := length_headerBytesWith message.header 0
  rw [show headerBytes message.header = headerBytesWith message.header 0 from rfl,
    length_append, hlen, Nat.add_sub_cancel_left] at h
  cases h
  refine ⟨hval, body, kinds, rfl, hmod, ?_, hkinds, ?_⟩
  · rw [length_append, show (headerBytes message.header).length = headerLen from hlen] at hlong
    omega
  intro bytes stop hstart hslice hstop
  obtain ⟨hdec, hfind⟩ := hloops bytes headerLen stop hstart hslice hstop
  exact ⟨by rw [hdec _ _ fun _ => rfl, nil_append, nil_append, Bool.false_or], hfind⟩

/-- A message with its integrity attribute, on the wire. -/
def sealedBytes (header : Header) (body : List UInt8) (digest : Bytes 32) : List UInt8 :=
  headerBytesWith header (body.length + 36) ++
    (body ++ attributeBytes messageIntegritySha256 digest.toList)

section sealedBytes

variable {body : List UInt8} {digest : Bytes 32}

theorem length_integrityBytes (digest : Bytes 32) :
    (attributeBytes messageIntegritySha256 digest.toList).length = 36 := by
  rw [length_attributeBytes, digest.toList_length]
  rfl

section

variable (header body digest)

theorem length_sealedBytes :
    (sealedBytes header body digest).length = headerLen + (body.length + 36) := by
  rw [sealedBytes, length_append, length_headerBytesWith, length_append, length_integrityBytes]

/-- The body and the integrity attribute stand behind the header. -/
theorem slice_sealedBytes :
    slice (sealedBytes header body digest) headerLen body.length = body ∧
      slice (sealedBytes header body digest) (headerLen + body.length) 36 =
        attributeBytes messageIntegritySha256 digest.toList := by
  have hlen := length_sealedBytes header body digest
  rw [← slice_eq_append rfl, slice_eq_drop (by omega), sealedBytes,
    drop_left' (length_headerBytesWith _ _)]

theorem read_sealedBytes :
    readRawAttribute (sealedBytes header body digest) (headerLen + body.length)
        (headerLen + (body.length + 36)) =
      .ok (messageIntegritySha256, digest.toList, headerLen + (body.length + 36)) := by
  have hlen := length_sealedBytes header body digest
  have hdigest := length_integrityBytes digest
  have hslice := (slice_sealedBytes header body digest).2
  rw [← hdigest] at hslice
  rw [readRawAttribute_of_slice (by omega) (by rw [digest.toList_length]; decide) hslice
    (by omega), hdigest, add_assoc]

theorem take_sealedBytes :
    (sealedBytes header body digest).take (headerLen + body.length) =
      headerBytesWith header (body.length + 36) ++ body := by
  rw [sealedBytes, ← append_assoc]
  refine take_left' ?_
  rw [length_append, length_headerBytesWith]

end

theorem decodeHeader_sealedBytes (hval : validateHeader header = .ok ())
    (hmod : body.length % 4 = 0)
    (hlong : (sealedBytes header body digest).length ≤ maxDatagramBytes) :
    decodeHeader (sealedBytes header body digest) = .ok (header, body.length + 36) := by
  have hdigest := length_integrityBytes digest
  have hfull : (body ++ attributeBytes messageIntegritySha256
      digest.toList).length = body.length + 36 := by
    rw [length_append, hdigest]
  rw [sealedBytes, ← hfull] at ⊢
  exact decodeHeader_of_bytes hval (by omega) hlong

end sealedBytes

variable {key : List UInt8}

/-- What was encoded with a key verifies under the key. -/
theorem verifyIntegrity_encode {bytes : List UInt8}
    (hitems : ∀ item ∈ message.attributes, item.Carried)
    (h : encodeWithIntegrity hmac message key = .ok bytes) :
    ∃ digest, verifyIntegrity hmac bytes key = .ok
      ⟨{ message with attributes := message.attributes ++ [.messageIntegritySha256 digest] }⟩ := by
  unfold encodeWithIntegrity at h
  split at h
  · cases h
  next hnone =>
  split at h
  · cases h
  next output houtput =>
  have hother : ∀ item ∈ message.attributes, item.isIntegrity = false := by
    intro item hitem
    rw [Bool.not_eq_true, any_eq_false] at hnone
    cases item <;> first | rfl | exact absurd rfl (hnone _ hitem)
  obtain ⟨hval, body, kinds, rfl, hmod, -, hkinds, hloops⟩ := encode_eq_ok hitems houtput
  replace hkinds := hkinds hother
  dsimp only at h
  rw [length_append, length_headerBytesWith, setLength_headerBytesWith,
    show headerLen + body.length + (attributeHeaderLen + 32) - headerLen = body.length + 36 by
      unfold attributeHeaderLen; omega] at h
  split_ifs at h
  generalize hdigest : hmac key (headerBytesWith message.header (body.length + 36) ++ body) =
    digest at h
  obtain ⟨_, hlong, hbytes⟩ := appendAttribute_eq_ok.1 h
  rw [append_assoc] at hbytes
  change bytes = sealedBytes message.header body digest at hbytes
  subst hbytes
  have hlen := length_sealedBytes message.header body digest
  obtain ⟨hdec, hfind⟩ := hloops (sealedBytes message.header body digest)
    (headerLen + (body.length + 36)) (by omega)
    (slice_sealedBytes message.header body digest).1 (by omega)
  have hread := read_sealedBytes message.header body digest
  have hhdr := decodeHeader_sealedBytes hval hmod hlong
  refine ⟨digest, ?_⟩
  unfold verifyIntegrity decode
  rw [hhdr]
  dsimp only
  rw [hfind hkinds, findIntegrity_step (by omega) hread, if_pos rfl, if_neg (by simp),
    findIntegrity_stop (le_refl _)]
  dsimp only
  rw [take_sealedBytes, setLength_headerBytesWith,
    show headerLen + body.length + (attributeHeaderLen + 32) - headerLen = body.length + 36 by
      unfold attributeHeaderLen; omega,
    hdigest, if_neg (not_not.2 rfl), hdec, decide_eq_false hkinds,
    decodeAttributes_step (by omega) hread, if_neg Bool.false_ne_true,
    if_neg (fun hseen => hkinds hseen.1),
    decodeAttribute_integrity, if_pos digest.toList_length, readBytes_toList]
  dsimp only
  rw [decodeAttributes_stop (le_refl _), Option.toList_some]

/-! ## Coverage -/

/-- When both loops got to the end, the integrity attribute is at the end, and the other
attributes are those of the bytes before it. -/
theorem covered_of_loops {stop cursor : Nat} {seen : List UInt16} {attributes out : List Attribute}
    (hfind : findIntegrity input stop cursor none = .ok (some (start, value)))
    (hdec : decodeAttributes input header stop cursor seen false attributes = .ok out) :
    cursor ≤ start ∧ readRawAttribute input start stop =
        .ok (messageIntegritySha256, value, stop) ∧ value.length = 32 ∧
      ∃ covered, decodeAttributes (input.take start) header start cursor seen false attributes =
          .ok covered ∧ out = covered ++ [.messageIntegritySha256 (readBytes 32 value 0)] := by
  by_cases hcursor : cursor < stop
  · obtain ⟨kind, _, next, hread⟩ := read_of_decodeAttributes hcursor hdec
    have hnext := readRawAttribute_next hread
    rw [findIntegrity_step hcursor hread] at hfind
    rw [decodeAttributes_step hcursor hread, if_neg Bool.false_ne_true] at hdec
    split at hdec
    · cases hdec
    next hduplicate =>
    split at hdec
    · cases hdec
    next attribute' hitem =>
    by_cases hkind : kind = messageIntegritySha256
    · -- The integrity attribute itself: both loops stop behind it.
      split_ifs at hfind with hpos
      simp only [not_or, not_not] at hpos
      obtain ⟨hlen, rfl, _⟩ := hpos
      rw [findIntegrity_stop (le_refl _)] at hfind
      cases hfind
      subst hkind
      rw [decodeAttributes_stop (le_refl _)] at hdec
      rw [decodeAttribute_integrity, if_pos hlen] at hitem
      cases hitem
      exact ⟨le_refl _, hread, hlen, attributes, decodeAttributes_stop (le_refl _),
        (ok.inj hdec).symm⟩
    · rw [if_neg hkind] at hfind
      rw [decide_eq_false hkind] at hdec
      obtain ⟨hstart, hlast, hlen, covered, hcovered, hout⟩ :=
        covered_of_loops hfind hdec
      refine ⟨by omega, hlast, hlen, covered, ?_, hout⟩
      rw [decodeAttributes_step (by omega) (readRawAttribute_take hread hstart),
        if_neg Bool.false_ne_true, if_neg hduplicate, hitem]
      dsimp only
      rw [decide_eq_false hkind, hcovered]
  · rw [findIntegrity_stop (Nat.le_of_not_lt hcursor)] at hfind
    cases hfind
termination_by stop - cursor

/-- The length of the header is the one that was transmitted. -/
theorem setLength_transmitted (hhdr : decodeHeader input = .ok (header, bodyLen))
    (hstart : headerLen ≤ start) (hend : start + 36 = input.length) :
    setLength (input.take start) (start + (attributeHeaderLen + 32) - headerLen) =
      input.take start := by
  obtain ⟨htotal, hlen⟩ := length_of_decodeHeader hhdr
  unfold headerLen at hstart htotal
  have hbytes : slice (input.take start) 2 2 = beBytes 2 bodyLen := by
    rw [slice_take (by omega), ← hlen]
    exact (length16_eq_iff (by omega) (readU16 input 2).toNat_lt).1 rfl
  rw [show start + (attributeHeaderLen + 32) - headerLen = bodyLen by
      unfold attributeHeaderLen headerLen; omega, setLength, ← hbytes, slice,
    show (input.take start).drop 4 = ((input.take start).drop 2).drop 2 by
      rw [drop_drop], take_append_drop, take_append_drop]

/-- The integrity attribute is the end of the bytes, its value is the hash of the bytes before
it, and the rest of the message is what the decoder reads in these. -/
def IntegrityCovers (hmac : List UInt8 → List UInt8 → Bytes 32) (key input : List UInt8)
    (message : Message) : Prop :=
  ∃ start digest covered,
    input = input.take start ++
      attributeBytes messageIntegritySha256 (digest : Bytes 32).toList ∧
    digest = hmac key (input.take start) ∧
    decodeAttributes (input.take start) message.header start headerLen [] false [] = .ok covered ∧
    message.attributes = covered ++ [.messageIntegritySha256 digest]

theorem covers_of_verifyIntegrity {input : List UInt8} {verified : VerifiedMessage}
    (h : verifyIntegrity hmac input key = .ok verified) :
    IntegrityCovers hmac key input verified.message := by
  unfold verifyIntegrity decode at h
  split at h
  · cases h
  next header bodyLen hhdr =>
  split at h
  · cases h
  · cases h
  next start supplied hfind =>
  dsimp only at h
  split_ifs at h with hdigest
  split at h
  · cases h
  next message hmsg =>
  split at hmsg
  · cases hmsg
  next attributes hattributes =>
  cases h
  cases hmsg
  obtain ⟨htotal, _⟩ := length_of_decodeHeader hhdr
  obtain ⟨hstart, hread, hvalue, covered, hcovered, hout⟩ :=
    covered_of_loops hfind hattributes
  rw [htotal] at hread
  obtain ⟨hend, hdrop⟩ := drop_of_readRawAttribute hvalue hread
  rw [setLength_transmitted hhdr hstart hend] at hdigest
  rw [← not_not.1 hdigest] at hdrop hout
  refine ⟨start, hmac key (input.take start), covered, ?_, rfl, hcovered, ?_⟩
  · rw [← hdrop, take_append_drop]
  · rw [hout, readBytes_toList]

/-- Encoding with a key binds the message under the key. -/
theorem integrity_binds (hmac : List UInt8 → List UInt8 → Bytes 32) :
    (∀ (message : Message) (key bytes : List UInt8),
      (∀ item ∈ message.attributes, item.Carried) →
      encodeWithIntegrity hmac message key = .ok bytes →
      ∃ digest, verifyIntegrity hmac bytes key = .ok ⟨{ message with
        attributes := message.attributes ++ [.messageIntegritySha256 digest] }⟩) ∧
    ∀ (input key : List UInt8) (verified : VerifiedMessage),
      verifyIntegrity hmac input key = .ok verified →
      IntegrityCovers hmac key input verified.message :=
  ⟨fun _ _ _ => verifyIntegrity_encode, fun _ _ _ => covers_of_verifyIntegrity⟩

/-- A hash that names the key and the length of what it covers. -/
def sampleHmac (key data : List UInt8) : Bytes 32 :=
  ⟨(key ++ UInt8.ofNat data.length :: List.replicate 32 0).take 32, by simp⟩

def sampleMessage : Message :=
  { header := { kind := .request, method := .createPermission,
                transactionId := List.Vector.replicate 12 7 },
    attributes := [.xorPeerAddress (.v4 (List.Vector.replicate 4 9) 50000), .nonce [1, 2, 3]] }

theorem sampleMessage_carried : ∀ item ∈ sampleMessage.attributes, item.Carried := by
  intro item hitem
  simp only [sampleMessage, mem_cons, not_mem_nil, or_false] at hitem
  rcases hitem with rfl | rfl
  · exact ⟨by decide, rfl⟩
  · trivial

/-- The peer takes twelve bytes, and the padded nonce eight. -/
theorem sample_binds : ∃ input verified,
    encodeWithIntegrity sampleHmac sampleMessage [5] = .ok input ∧
      verifyIntegrity sampleHmac input [5] = .ok verified ∧
      verified.message.attributes.take 2 = sampleMessage.attributes ∧
      IntegrityCovers sampleHmac [5] input verified.message := by
  obtain ⟨input, hinput⟩ : ∃ input, encodeWithIntegrity sampleHmac sampleMessage [5] = .ok input :=
    ⟨_, rfl⟩
  obtain ⟨_, hver⟩ := (integrity_binds sampleHmac).1 _ _ _ sampleMessage_carried hinput
  exact ⟨input, _, hinput, hver, rfl, (integrity_binds sampleHmac).2 _ _ _ hver⟩

end LatencyDesk.TurnRelay
