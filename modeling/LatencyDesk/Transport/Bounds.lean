import LatencyDesk.Transport.Accounting

/-!
# The bounds of the reassembler

`ingest` finds or admits the frame of a packet, stores the fragment in it, and
hands the frame out when it is full.  `admitFrame_cases` and
`storeFragment_cases` say what these two phases can do, and `ingest_cases` puts
them together.  Between the two phases a new frame holds no fragment, so the
invariant between calls, `Settled`, is stronger than `Sound`.

`reassembler_within_bounds` is the result for every sequence of calls, with any
datagrams and any times.
-/

namespace LatencyDesk.Transport

open Lib Protocol List OrderedMap PartialFrame ReassemblyConfig MediaPacket Reassembler Nat

/-- The errors that stand for a fault of the reassembler, not of its input. -/
def TransportError.isInternal : TransportError → Bool
  | .incompleteAssembly => true
  | .reassemblyCapacity => true
  | .arithmetic => true
  | _ => false

/-- A frame that holds some of its bytes, but not all. -/
structure PartialFrame.Waiting (part : PartialFrame) : Prop where
  nonempty : part.fragments.entries ≠ []
  short : part.receivedBytes < part.declared

variable {part : PartialFrame}

theorem PartialFrame.Consistent.receivedBytes_le (h : part.Consistent) :
    part.receivedBytes ≤ part.declared := by
  rw [h.received]
  exact payloadBytes_le (zero_le _) h.disjoint (fun _ _ => zero_le _) h.inside

variable {header : MediaHeader} {nowNs : UInt64}

theorem PartialFrame.consistent_new (h : header.Valid) :
    (new header nowNs).Consistent where
  declared := h.frame.2
  nonempty _ hmem := nomatch hmem
  disjoint := .nil
  inside _ hmem := nomatch hmem
  received := rfl

theorem PartialFrame.metadataMatches_new : (new header nowNs).metadataMatches header = true := by
  simp [metadataMatches, new]

theorem PartialFrame.declared_of_metadataMatches
    (h : part.metadataMatches header = true) : part.declared = header.frameLen.toNat := by
  unfold metadataMatches at h
  rw [Bool.and_eq_true] at h
  rw [declared, eq_of_beq h.2]

namespace Reassembler

/-- The invariant between calls. -/
structure Settled (r : Reassembler) : Prop extends r.Sound where
  waiting : ∀ entry ∈ r.frames.entries, entry.2.Waiting

variable {r r' : Reassembler} {key : FrameKey} {part : PartialFrame} {nowNs : UInt64}

theorem Settled.shrinks (h : r.Settled) (hshr : r.Shrinks r') : r'.Settled :=
  ⟨hshr.sound h.toSound, fun entry hent => h.waiting entry (hshr.frames entry hent)⟩

/-! ## Admitting a frame -/

/-- A new frame in the room that has been made for it. -/
theorem Sound.insertNew (h : r.Sound) (hval : header.Valid) (hget : r.frames.get? key = none)
    (hroom : r.isFull header.frameLen.toNat = false) :
    ({ r with
        reservedBytes := usizeAdd r.reservedBytes header.frameLen.toNat
        frames := r.frames.insert key (.new header nowNs) } : Reassembler).Sound := by
  obtain ⟨hinflight, hresv⟩ := r.isFull_eq_false.1 hroom
  obtain ⟨_, hbuffered⟩ := limits_of_validate r.valid
  have hadd : usizeAdd r.reservedBytes header.frameLen.toNat =
      r.reservedBytes + header.frameLen.toNat := usizeAdd_eq (by omega)
  have htotal (f : FrameKey → PartialFrame → Nat) :
      (r.frames.insert key (.new header nowNs)).total f =
        r.frames.total f + f key (.new header nowNs) := by
    rw [total_insert, erase_of_get?_eq_none hget]
  refine ⟨?_, ?_, ?_, ?_, ?_, h.storedLimit, ?_⟩
  · rw [htotal, h.buffered]
    rfl
  · rw [htotal, hadd, h.reserved]
    rfl
  · rw [htotal, h.stored]
    rfl
  · rw [length_eq_total, htotal, ← length_eq_total]
    exact hinflight
  · rw [hadd]
    exact hresv
  · exact forall_mem_insert ⟨consistent_new hval, zero_le _⟩ h.frame

/-- The reassembler when the frame of a packet has been found or admitted. -/
structure Admitted (r r' : Reassembler) (header : MediaHeader) (nowNs : UInt64)
    (part : PartialFrame) : Prop where
  config : r'.config = r.config
  sound : r'.Sound
  get : r'.frames.get? (.fromHeader header) = some part
  origin : r.frames.get? (.fromHeader header) = some part ∧ r' = r ∨ part = .new header nowNs
  sameMetadata : part.metadataMatches header = true
  others : ∀ entry ∈ r'.frames.entries, entry.1 ≠ .fromHeader header → entry ∈ r.frames.entries

theorem admitFrame_cases (h : r.Sound) (hval : header.Valid)
    (hbudget : header.frameLen.toNat ≤ r.config.maxBufferedBytes.toNat) :
    (∃ r', r.admitFrame header nowNs = (.error (.metadataConflict (.fromHeader header)), r') ∧
        r.Shrinks r') ∨
      ∃ r' part, r.admitFrame header nowNs = (.ok (), r') ∧ r.Admitted r' header nowNs part := by
  unfold admitFrame
  dsimp only
  cases hget : r.frames.get? (.fromHeader header) with
  | some existing =>
    dsimp only
    split_ifs with hmat
    · refine .inr ⟨r, existing, rfl, rfl, h, hget, .inl ⟨hget, rfl⟩, hmat, ?_⟩
      exact fun entry hent _ => hent
    · exact .inl ⟨_, rfl, r.shrinks_countConflict _⟩
  | none =>
    obtain ⟨_, hmake, hshr, hfull⟩ := makeRoom_eq_ok h hbudget (lt_succ_self _)
    rw [makeRoomForNewFrame, hmake]
    refine .inr ⟨_, .new header nowNs, rfl, hshr.config, ?_, ?_, .inr rfl, ?_, ?_⟩
    · exact (hshr.sound h).insertNew hval (hshr.get?_eq_none hget) hfull
    · exact get?_insert_self
    · exact metadataMatches_new
    · exact forall_mem_insert (absurd rfl) fun entry hent _ => hshr.frames entry hent

/-! ## Storing a fragment -/

/-- The reassembler with a frame that has one fragment more in place of the frame. -/
def place (r : Reassembler) (key : FrameKey) (part : PartialFrame) (bytes : Nat)
    (stats : ReassemblyStats) : Reassembler :=
  { r with
    frames := r.frames.insert key part
    bufferedBytes := usizeAdd r.bufferedBytes bytes
    fragmentEntries := usizeAdd r.fragmentEntries 1
    stats := stats }

variable {bytes : Nat} {packet : MediaPacket}

theorem Sound.store (h : r.Sound) (hget : r.frames.get? key = some part) {part' : PartialFrame}
    (hopen : part'.Open r.config.maxFragmentsPerFrame.toNat)
    (hdeclared : part'.declared = part.declared)
    (hrecv : part'.receivedBytes = part.receivedBytes + bytes)
    (hcount : part'.fragments.length = part.fragments.length + 1)
    (hroom : r.fragmentEntries < r.config.maxFragmentEntries.toNat) (stats : ReassemblyStats) :
    (r.place key part' bytes stats).Sound := by
  obtain ⟨_, hbudget⟩ := limits_of_validate r.valid
  have htotal (f : FrameKey → PartialFrame → Nat) :
      (r.frames.insert key part').total f + f key part = r.frames.total f + f key part' := by
    have herase := r.frames.total_erase_add f hget
    have hinsert := r.frames.total_insert f key part'
    omega
  have hfr : ∀ entry ∈ (r.frames.insert key part').entries,
      entry.2.Open r.config.maxFragmentsPerFrame.toNat :=
    forall_mem_insert hopen h.frame
  have hbuffered := htotal fun _ part => part.receivedBytes
  have hresv := htotal fun _ part => part.declared
  have hstor := htotal fun _ part => part.fragments.length
  have hlen := htotal fun _ _ => 1
  rw [← length_eq_total, ← length_eq_total] at hlen
  rw [← h.buffered] at hbuffered
  rw [← h.reserved] at hresv
  rw [← h.stored] at hstor
  -- The frames hold no more than the reassembler has reserved for them.
  have hheld : (r.frames.insert key part').total (fun _ part => part.receivedBytes) ≤
      (r.frames.insert key part').total fun _ part => part.declared :=
    total_le_total _ _ fun entry hent => (hfr entry hent).receivedBytes_le
  have hlimit := h.reservedLimit
  have hword : r.config.maxFragmentEntries.toNat < 2 ^ 64 := UInt64.toNat_lt _
  have hbytes : usizeAdd r.bufferedBytes bytes = r.bufferedBytes + bytes :=
    usizeAdd_eq (by omega)
  have hone : usizeAdd r.fragmentEntries 1 = r.fragmentEntries + 1 := usizeAdd_eq (by omega)
  have hinflight := h.inflightLimit
  refine ⟨?_, ?_, ?_, ?_, hlimit, ?_, hfr⟩
  · show usizeAdd r.bufferedBytes bytes = (r.frames.insert key part').total _
    omega
  · show r.reservedBytes = (r.frames.insert key part').total _
    omega
  · show usizeAdd r.fragmentEntries 1 = (r.frames.insert key part').total _
    omega
  · show (r.frames.insert key part').length ≤ r.config.maxInflightFrames.toNat
    omega
  · show usizeAdd r.fragmentEntries 1 ≤ r.config.maxFragmentEntries.toNat
    rw [hone]
    exact hroom

/-- What `ingest` can do with a fragment when it has the frame of its packet. -/
inductive Stored (r : Reassembler) (key : FrameKey) (part : PartialFrame) (packet : MediaPacket)
    (nowNs : UInt64) : Except TransportError IngestOutcome × Reassembler → Prop
  | refused (error : TransportError) (r' : Reassembler) (herror : error.isInternal = false)
      (hshrinks : r.Shrinks r') (hgone : r'.frames.get? key = none) :
      Stored r key part packet nowNs (.error error, r')
  | duplicate (stats : ReassemblyStats)
      (hget : part.fragments.get? packet.header.fragmentOffset.toNat = some packet.payload) :
      Stored r key part packet nowNs (.ok (.duplicate key), { r with stats := stats })
  | pending (part' : PartialFrame) (r' : Reassembler)
      (hpart : part' = addFragment part packet.header.fragmentOffset.toNat packet.payload nowNs)
      (hconfig : r'.config = r.config) (hframes : r'.frames = r.frames.insert key part')
      (hsound : r'.Sound) (hshort : part'.receivedBytes < part'.declared) :
      Stored r key part packet nowNs (.ok (.pending key part'.receivedBytes), r')
  | complete (part' : PartialFrame) (frame : ReassembledFrame) (r' : Reassembler)
      (hpart : part' = addFragment part packet.header.fragmentOffset.toNat packet.payload nowNs)
      (hheader : frame.header = part.canonical)
      (hbytes : frame.bytes = part'.fragments.entries.flatMap Prod.snd)
      (hshrinks : r.Shrinks r') (hgone : r'.frames.get? key = none) :
      Stored r key part packet nowNs (.ok (.complete frame), r')

theorem get?_removeFrame :
    (r.removeFrame key).frames.get? key = none := by
  rw [frames_removeFrame, get?_eq_none]
  exact fun part hmem => (mem_erase.1 hmem).2 rfl

section

variable {packet : MediaPacket} {part' : PartialFrame} (nowNs : UInt64)

/-- The frame with a new fragment can take the place of the frame. -/
theorem Sound.storeAdded (h : r.Sound) (hget : r.frames.get? key = some part)
    (hpkt : packet.payload ≠ [])
    (hins : packet.header.fragmentOffset.toNat + packet.payload.length ≤ part.declared)
    (hfresh : part.fragments.get? packet.header.fragmentOffset.toNat = none)
    (hcheck : checkInsertion part packet.header.fragmentOffset.toNat packet.payload
      r.config.maxFragmentsPerFrame.toNat = .ok ())
    (hroom : r.fragmentEntries < r.config.maxFragmentEntries.toNat)
    (hpart : part' = addFragment part packet.header.fragmentOffset.toNat packet.payload nowNs)
    (stats : ReassemblyStats) :
    part'.Consistent ∧ (r.place key part' packet.payload.length stats).Sound := by
  subst hpart
  have hopen := h.frame _ (get?_eq_some.1 hget)
  obtain ⟨hcons, hrecv, hcount, hlimit⟩ :=
    hopen.toConsistent.add hpkt hins hfresh hcheck nowNs
  refine ⟨hcons, h.store hget ⟨hcons, ?_⟩ rfl hrecv hcount hroom stats⟩
  rw [hcount]
  exact hlimit

/-- A frame that is put in place and removed again. -/
theorem shrinks_removeFrame_insert (hcfg : r'.config = r.config)
    (hfrs : r'.frames = r.frames.insert key part) (hsnd : r'.Sound) :
    r.Shrinks (r'.removeFrame key) where
  config := (r'.config_removeFrame key).trans hcfg
  frames entry hent := by
    rw [frames_removeFrame, hfrs, mem_erase, mem_insert] at hent
    rcases hent with ⟨rfl | ⟨hent, _⟩, hne⟩
    · exact absurd rfl hne
    · exact hent
  sound _ := hsnd.removeFrame key

/-- A frame with all its bytes is handed out. -/
theorem finishFragment_of_full (hcons : part'.Consistent)
    (hstore : ∀ stats, (r.place key part' bytes stats).Sound)
    (hfull : part'.receivedBytes = part'.declared) :
    ∃ r', r.finishFragment key part' bytes nowNs =
        (.ok (.complete
          { header := part'.canonical
            bytes := part'.fragments.entries.flatMap Prod.snd
            firstFragmentNs := part'.firstSeenNs
            completedNs := nowNs }), r') ∧
      r.Shrinks r' ∧ r'.frames = (r.frames.insert key part').erase key ∧
      r'.activeCodecEpoch = r.activeCodecEpoch := by
  unfold finishFragment
  rw [if_pos hfull, assemble_eq_ok hcons hfull]
  refine ⟨_, rfl, .trans ?_ (shrinks_stats _ _), frames_removeFrame _ _,
    activeCodecEpoch_removeFrame _ _⟩
  exact shrinks_removeFrame_insert rfl rfl (hstore _)

/-- A frame that still misses bytes stays. -/
theorem finishFragment_of_short (hstore : ∀ stats, (r.place key part' bytes stats).Sound)
    (hshort : part'.receivedBytes ≠ part'.declared) :
    ∃ r', r.finishFragment key part' bytes nowNs =
        (.ok (.pending key part'.receivedBytes), r') ∧
      r'.Sound ∧ r'.config = r.config ∧ r'.frames = r.frames.insert key part' ∧
      r'.activeCodecEpoch = r.activeCodecEpoch := by
  unfold finishFragment
  rw [if_neg hshort]
  exact ⟨_, rfl, hstore _, rfl, rfl, rfl⟩

end

theorem storeFragment_cases (h : r.Sound) (hget : r.frames.get? key = some part)
    (hpkt : packet.payload ≠ [])
    (hins : packet.header.fragmentOffset.toNat + packet.payload.length ≤ part.declared)
    (nowNs : UInt64) :
    Stored r key part packet nowNs (r.storeFragment key part packet nowNs) := by
  have hpart := h.frame _ (get?_eq_some.1 hget)
  have hcases := insertFragment_cases hpart.toConsistent hins nowNs
    r.config.maxFragmentsPerFrame.toNat
  unfold storeFragment
  dsimp only
  split
  · exact .refused _ _ rfl (r.shrinks_removeFrame key) (get?_removeFrame)
  next hroom =>
  generalize insertFragment part packet.header.fragmentOffset.toNat packet.payload nowNs
    r.config.maxFragmentsPerFrame.toNat = res at hcases
  cases hcases with
  | duplicate hduplicate => exact .duplicate _ hduplicate
  | added hfresh hcheck =>
    -- A fragment that is not there yet is no duplicate, so the limit has been checked.
    have hlimit : r.fragmentEntries < r.config.maxFragmentEntries.toNat := by
      refine Nat.lt_of_not_le fun hle => hroom ⟨?_, hle⟩
      rw [hfresh]
      rfl
    have hadded := h.storeAdded nowNs hget hpkt hins hfresh hcheck hlimit rfl
    have hcons := (hadded r.stats).1
    have hstore := fun stats => (hadded stats).2
    by_cases hfull :
        (addFragment part packet.header.fragmentOffset.toNat packet.payload nowNs).receivedBytes =
        (addFragment part packet.header.fragmentOffset.toNat packet.payload nowNs).declared
    · obtain ⟨r', hres, hshr, hfrs, _⟩ :=
        finishFragment_of_full nowNs hcons hstore hfull
      dsimp only
      rw [hres]
      refine .complete _ _ _ rfl rfl rfl hshr ?_
      rw [hfrs, get?_eq_none]
      exact fun part hmem => (mem_erase.1 hmem).2 rfl
    · obtain ⟨_, hres, hsnd, hcfg, hfrs, _⟩ :=
        finishFragment_of_short nowNs hstore hfull
      dsimp only
      rw [hres]
      refine .pending _ _ rfl hcfg hfrs hsnd ?_
      exact Nat.lt_of_le_of_ne hcons.receivedBytes_le hfull
  | refused e harithmetic hkind =>
    refine .refused _ _ ?_ (r.shrinks_countConflict key) (get?_removeFrame)
    rcases hkind with rfl | rfl | rfl <;> rfl

/-! ## A call -/

/-- What a call of `ingest` can do. -/
inductive Ingested (r : Reassembler) (datagram : List UInt8) (nowNs : UInt64) :
    Except TransportError IngestOutcome × Reassembler → Prop
  | refused (error : TransportError) (r' : Reassembler) (herror : error.isInternal = false)
      (hshrinks : r.Shrinks r') : Ingested r datagram nowNs (.error error, r')
  | duplicate (key : FrameKey) (r' : Reassembler) (hshrinks : r.Shrinks r') :
      Ingested r datagram nowNs (.ok (.duplicate key), r')
  | pending (packet : MediaPacket) (part part' : PartialFrame) (r' : Reassembler)
      (hdecode : MediaPacket.decode datagram = .ok packet)
      (hpart : r.frames.get? (.fromHeader packet.header) = some part ∨
        part = .new packet.header nowNs)
      (hpart' : part' = addFragment part packet.header.fragmentOffset.toNat packet.payload nowNs)
      (hconfig : r'.config = r.config)
      (hframes : ∀ entry ∈ r'.frames.entries,
        entry = (.fromHeader packet.header, part') ∨ entry ∈ r.frames.entries)
      (hsound : r'.Sound) (hshort : part'.receivedBytes < part'.declared) :
      Ingested r datagram nowNs (.ok (.pending (.fromHeader packet.header) part'.receivedBytes), r')
  | complete (packet : MediaPacket) (part part' : PartialFrame) (frame : ReassembledFrame)
      (r' : Reassembler) (hdecode : MediaPacket.decode datagram = .ok packet)
      (hpart : r.frames.get? (.fromHeader packet.header) = some part ∨
        part = .new packet.header nowNs)
      (hpart' : part' = addFragment part packet.header.fragmentOffset.toNat packet.payload nowNs)
      (hheader : frame.header = part.canonical)
      (hbytes : frame.bytes = part'.fragments.entries.flatMap Prod.snd)
      (hshrinks : r.Shrinks r') : Ingested r datagram nowNs (.ok (.complete frame), r')

/-- When the frame of the packet is gone again, the call has only removed frames. -/
theorem Admitted.shrinks (h : r.Admitted r' header nowNs part) {r'' : Reassembler}
    (hshr : r'.Shrinks r'') (hgone : r''.frames.get? (.fromHeader header) = none) :
    r.Shrinks r'' where
  config := hshr.config.trans h.config
  frames entry hent := by
    refine h.others entry (hshr.frames entry hent) ?_
    rintro heq
    exact get?_eq_none.1 hgone entry.2 (heq ▸ hent)
  sound _ := hshr.sound h.sound

variable {datagram : List UInt8}

theorem ingestPacket_cases (h : r.Sound) (hdec : decode datagram = .ok packet) :
    Ingested r datagram nowNs (r.ingestPacket packet nowNs) := by
  obtain ⟨hval, hlen⟩ := decode_spec hdec
  have hpkt : packet.payload ≠ [] := by
    rw [← length_pos_iff, hlen]
    exact hval.fragment.1
  have hep := r.shrinks_enterEpoch packet.header.codecEpoch
  unfold ingestPacket
  dsimp only
  split_ifs with hparity hstale hbudget
  · exact .refused _ _ rfl (.refl r)
  · exact .refused _ _ rfl (r.shrinks_stats _)
  · exact .refused _ _ rfl hep
  rcases admitFrame_cases (hep.sound h) hval (Nat.le_of_not_lt hbudget) with
    ⟨r', hfr, hshr⟩ | ⟨r', part, hfr, hadmd⟩
  · rw [hfr]
    exact .refused _ _ rfl (hep.trans hshr)
  rw [hfr]
  dsimp only
  rw [hadmd.get]
  dsimp only
  have hins : packet.header.fragmentOffset.toNat + packet.payload.length ≤ part.declared := by
    rw [declared_of_metadataMatches hadmd.sameMetadata, hlen]
    exact hval.inside
  have hpart : r.frames.get? (.fromHeader packet.header) = some part ∨
      part = .new packet.header nowNs := by
    refine hadmd.origin.imp_left fun hfnd => ?_
    exact get?_eq_some.2 (hep.frames _ (get?_eq_some.1 hfnd.1))
  have hstor := storeFragment_cases hadmd.sound hadmd.get hpkt hins nowNs
  generalize r'.storeFragment (.fromHeader packet.header) part packet nowNs = res at hstor
  cases hstor with
  | refused e r'' herror hshr hgone =>
    exact .refused _ _ herror (hep.trans (hadmd.shrinks hshr hgone))
  | duplicate stats hget =>
    -- A new frame has no fragment, so the frame was there.
    rcases hadmd.origin with ⟨_, rfl⟩ | rfl
    · exact .duplicate _ _ (hep.trans (shrinks_stats _ _))
    · cases hget
  | pending part' r'' hpart' hcfg hfrs hsnd hshort =>
    refine .pending packet part part' r'' hdec hpart hpart'
      (hcfg.trans (hadmd.config.trans hep.config)) ?_ hsnd hshort
    intro entry hent
    rw [hfrs, mem_insert] at hent
    exact hent.imp_right fun hold =>
      hep.frames entry (hadmd.others entry hold.1 hold.2)
  | complete part' frame r'' hpart' hhdr hbytes hshr hgone =>
    exact .complete packet part part' frame r'' hdec hpart hpart' hhdr hbytes
      (hep.trans (hadmd.shrinks hshr hgone))

variable {res : Except TransportError IngestOutcome × Reassembler} {config : ReassemblyConfig}

/-- Frames that expire before the rest of the call are only removed. -/
theorem Ingested.of_shrinks (hshr : r.Shrinks r')
    (h : Ingested r' datagram nowNs res) : Ingested r datagram nowNs res := by
  have hget {header : MediaHeader} {part : PartialFrame}
      (hpart : r'.frames.get? (.fromHeader header) = some part ∨ part = .new header nowNs) :
      r.frames.get? (.fromHeader header) = some part ∨ part = .new header nowNs := by
    refine hpart.imp_left fun hfnd => ?_
    exact get?_eq_some.2 (hshr.frames _ (get?_eq_some.1 hfnd))
  cases h with
  | refused e r'' herror hshr' => exact .refused _ _ herror (hshr.trans hshr')
  | duplicate key r'' hshr' => exact .duplicate _ _ (hshr.trans hshr')
  | pending packet part part' r'' hdec hpart hpart' hcfg hfrs hsnd hshort =>
    refine .pending packet part part' r'' hdec (hget hpart) hpart'
      (hcfg.trans hshr.config) ?_ hsnd hshort
    exact fun entry hent => (hfrs entry hent).imp_right (hshr.frames entry)
  | complete packet part part' frame r'' hdec hpart hpart' hhdr hbytes hshr' =>
    exact .complete packet part part' frame r'' hdec (hget hpart) hpart' hhdr hbytes
      (hshr.trans hshr')

theorem ingest_cases (h : r.Sound) (datagram : List UInt8) (nowNs : UInt64) :
    Ingested r datagram nowNs (r.ingest datagram nowNs) := by
  have hexpire := r.shrinks_expire nowNs
  refine .of_shrinks hexpire ?_
  unfold ingest
  dsimp only
  split
  · exact .refused _ _ rfl (.refl _)
  split
  · exact .refused _ _ rfl (shrinks_stats _ _)
  next packet hdec =>
  exact ingestPacket_cases (hexpire.sound h) hdec

theorem Ingested.settled (h : r.Settled)
    (hres : Ingested r datagram nowNs res) :
    res.2.Settled ∧ res.2.config = r.config := by
  cases hres with
  | refused e r' herror hshr | duplicate key r' hshr => exact ⟨h.shrinks hshr, hshr.config⟩
  | complete packet part part' frame r' hdec hpart hpart' hhdr hbytes hshr =>
    exact ⟨h.shrinks hshr, hshr.config⟩
  | pending packet part part' r' hdec hpart hpart' hcfg hfrs hsnd hshort =>
    refine ⟨⟨hsnd, ?_⟩, hcfg⟩
    intro entry hent
    rcases hfrs entry hent with rfl | hold
    · refine ⟨?_, hshort⟩
      rw [hpart']
      exact append_ne_nil_of_right_ne_nil _ (cons_ne_nil _ _)
    · exact h.waiting entry hold

theorem Ingested.not_isInternal {e : TransportError}
    (h : Ingested r datagram nowNs (.error e, r')) : e.isInternal = false := by
  cases h with
  | refused _ _ herror => exact herror

/-! ## Every sequence of calls -/

theorem settled_ofValid (valid : config.validate = .ok ()) :
    (ofValid config valid).Settled where
  buffered := rfl
  reserved := rfl
  stored := rfl
  inflightLimit := zero_le _
  reservedLimit := zero_le _
  storedLimit := zero_le _
  frame _ hent := nomatch hent
  waiting _ hent := nomatch hent

theorem new_eq_ok (h : new config = .ok r) :
    ∃ valid, r = ofValid config valid := by
  unfold new at h
  split at h
  · next valid => exact ⟨valid, (Except.ok.inj h).symm⟩
  · cases h

/-- One call keeps the invariant and reports no internal error. -/
theorem settled_stepAt (h : r.Settled) (call : ReassemblerCall) :
    (reassemblerMachine.stepAt r call).post.Settled ∧
      (reassemblerMachine.stepAt r call).post.config = r.config ∧
      ∀ datagram nowNs error,
        (reassemblerMachine.stepAt r call).event = .ingest datagram nowNs (.error error) →
          error.isInternal = false := by
  cases call with
  | ingest datagram nowNs =>
    have hcases := ingest_cases h.toSound datagram nowNs
    refine ⟨(hcases.settled h).1, (hcases.settled h).2, ?_⟩
    intro dgram' nowNs' error hev
    have hres : (r.ingest datagram nowNs).1 = .error error :=
      (ReassemblerEvent.ingest.inj hev).2.2
    rw [← Prod.mk.eta (p := r.ingest datagram nowNs), hres] at hcases
    exact hcases.not_isInternal
  | expire nowNs =>
    have hshr := r.shrinks_expire nowNs
    exact ⟨h.shrinks hshr, hshr.config, nofun⟩

/-- For every valid configuration and after each of any sequence of calls, the
counters are the sums over the frames, the limits of the configuration hold, and
each frame holds disjoint fragments of some of its bytes.  No call reports an
internal error. -/
theorem reassembler_within_bounds {config : ReassemblyConfig} {r : Reassembler}
    (hnew : new config = .ok r) (calls : List ReassemblerCall) :
    ∀ st ∈ reassemblerMachine.trace r calls,
      st.post.Settled ∧ st.post.config = config ∧
        ∀ datagram nowNs error, st.event = .ingest datagram nowNs (.error error) →
          error ≠ .incompleteAssembly ∧ error ≠ .reassemblyCapacity ∧ error ≠ .arithmetic := by
  obtain ⟨valid, rfl⟩ := new_eq_ok hnew
  have hinit : (ofValid config valid).Settled ∧ (ofValid config valid).config = config :=
    ⟨settled_ofValid valid, rfl⟩
  refine reassemblerMachine.forall_trace_of_invariant
    (Q := fun r => r.Settled ∧ r.config = config) ?_ ?_ hinit calls
  · intro r call hr
    have hstep := settled_stepAt hr.1 call
    exact ⟨hstep.1, hstep.2.1.trans hr.2⟩
  · intro r call hr
    have hstep := settled_stepAt hr.1 call
    refine ⟨hstep.1, hstep.2.1.trans hr.2, ?_⟩
    intro datagram nowNs error hev
    have herror := hstep.2.2 datagram nowNs error hev
    refine ⟨?_, ?_, ?_⟩ <;> rintro rfl <;> cases herror

/-- A datagram with one byte of a frame of three. -/
def samplePiece (frameId offset : UInt8) : List UInt8 :=
  [76, 68, 83, 75, 2, 1, 0, 1, 0, 0, 0, 1, 0, 0, 0, 1, 0, 0, 0, 0, 0, 0, 0, frameId, 255, 255, 255,
    255, 255, 255, 255, 255, 0, 0, 0, 3, 0, 0, 0, offset, 0, 1, 0, 0, 11]

/-- Two frames are under way, a third evicts the first of them, and the second expires. -/
def samplePieces : List ReassemblerCall :=
  [.ingest (samplePiece 1 0) 5, .ingest (samplePiece 1 1) 6, .ingest (samplePiece 2 0) 7,
    .ingest (samplePiece 3 0) 8, .expire 17_000_007]

/-- The frames, bytes, reserved bytes and fragments that a reassembler holds. -/
def held (r : Reassembler) : List Nat :=
  [r.inflightFrames, r.bufferedBytes, r.reservedBytes, r.fragmentEntries]

theorem default_within_bounds :
    let r := ofValid .default validate_default
    (reassemblerMachine.trace r samplePieces).map (fun st => st.post.held) =
        [[1, 1, 3, 1], [1, 2, 3, 2], [2, 3, 6, 3], [2, 2, 6, 2], [1, 1, 3, 1]] ∧
      (reassemblerMachine.run r samplePieces).stats.framesEvicted = 1 ∧
      (reassemblerMachine.run r samplePieces).stats.framesExpired = 1 ∧
      ∀ st ∈ reassemblerMachine.trace r samplePieces,
        st.post.Settled ∧ st.post.config = .default ∧
          ∀ datagram nowNs error, st.event = .ingest datagram nowNs (.error error) →
            error ≠ .incompleteAssembly ∧ error ≠ .reassemblyCapacity ∧ error ≠ .arithmetic :=
  ⟨by decide +kernel, by decide +kernel, by decide +kernel,
    reassembler_within_bounds (dif_pos validate_default) samplePieces⟩

end Reassembler

end LatencyDesk.Transport
