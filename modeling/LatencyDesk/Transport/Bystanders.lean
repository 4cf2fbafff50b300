import LatencyDesk.Transport.Shipment

/-!
# A frame among others

The reassembler has a few places, and the packets of other frames compete for them.
This file follows one call of `ingest` with a packet of a frame that the configuration
admits, whatever other frames are in flight.

* `ingest_eq` takes the call apart: frames expire and the epoch is entered
  (`prepared`), the frame is found or admitted, the packet is stored.
* `ingest_other` says when a frame in flight stays as it is.
* `ingest_own` follows the frame of the packet itself.

`Awaits` is the invariant of a family of frames of which some are still looked for, and
`Awaits.ingest` and `Awaits.ingest_own` keep it.
-/

namespace LatencyDesk.Transport

open Lib Protocol OrderedMap Shipment PartialFrame Nat List

/-- The configuration admits the frame by itself. -/
structure Shipment.Admissible (s : Shipment) (config : ReassemblyConfig) (epoch : UInt32) :
    Prop where
  epoch : s.spec.codecEpoch = epoch
  parity : s.spec.flags &&& MediaFlags.parity = 0
  bytes : s.frame.length ≤ config.maxBufferedBytes.toNat
  budget : s.budget ≤ config.maxDatagramBytes.toNat
  fragments : s.packets.length ≤ config.maxFragmentsPerFrame.toNat

namespace Reassembler

variable {r r' : Reassembler} {key own : FrameKey} {part : PartialFrame} {packet : MediaPacket}
  {nowNs : UInt64} {epoch : UInt32}

/-! ## Other frames stay -/

theorem get?_removeFrame_of_ne (r : Reassembler) (hne : key ≠ own) :
    (r.removeFrame own).frames.get? key = r.frames.get? key := by
  apply Option.ext
  intro part
  rw [frames_removeFrame, get?_eq_some, get?_eq_some, mem_erase]
  exact ⟨fun h => h.1, fun h => ⟨h, hne⟩⟩

theorem get?_removeFrames (r : Reassembler) {keys : List FrameKey} (hkey : key ∉ keys) :
    (r.removeFrames keys).frames.get? key = r.frames.get? key := by
  induction keys generalizing r with
  | nil => rfl
  | cons own keys ih =>
    rw [mem_cons, not_or] at hkey
    exact (ih (r.removeFrame own) hkey.2).trans (r.get?_removeFrame_of_ne hkey.1)

/-- The frame is not too old. -/
def Timely (r : Reassembler) (key : FrameKey) (nowNs : UInt64) : Prop :=
  ∀ part, r.frames.get? key = some part →
    saturatingSub nowNs part.firstSeenNs < r.config.maxFrameAgeNs

theorem get?_expire (htimely : r.Timely key nowNs) :
    (r.expire nowNs).2.frames.get? key = r.frames.get? key := by
  refine r.get?_removeFrames fun hexp => ?_
  obtain ⟨entry, hent, rfl⟩ := mem_map.1 hexp
  obtain ⟨hmem, hage⟩ := mem_filter.1 hent
  have hyoung := htimely entry.2 (get?_eq_some.2 hmem)
  exact UInt64.not_le.2 hyoung (decide_eq_true_iff.1 hage)

/-- A frame that is too old is gone. -/
theorem get?_expire_of_old (hget : r.frames.get? key = some part)
    (hold : r.config.maxFrameAgeNs ≤ saturatingSub nowNs part.firstSeenNs) :
    (r.expire nowNs).2.frames.get? key = none := by
  have hmem : key ∈ r.expiredKeys nowNs := by
    refine mem_map.2 ⟨(key, part), mem_filter.2 ⟨get?_eq_some.1 hget, ?_⟩, rfl⟩
    exact decide_eq_true hold
  obtain ⟨before, after, hkeys⟩ := append_of_mem hmem
  show (r.removeFrames (r.expiredKeys nowNs)).frames.get? key = none
  rw [hkeys, removeFrames, foldl_append, foldl_cons]
  exact (shrinks_removeFrames _ after).get?_eq_none get?_removeFrame

theorem get?_enterEpoch (r : Reassembler) {packetEpoch : UInt32}
    (hep : key.codecEpoch = packetEpoch) :
    (r.enterEpoch packetEpoch).frames.get? key = r.frames.get? key := by
  unfold enterEpoch
  split
  · refine r.get?_removeFrames fun hstale => ?_
    have hlt := (mem_filter.1 hstale).2
    rw [hep, decide_eq_true_iff] at hlt
    exact UInt32.lt_irrefl _ hlt
  · rfl

/-- The reassembler when the frame of a packet is looked for. -/
def prepared (r : Reassembler) (packetEpoch : UInt32) (nowNs : UInt64) : Reassembler :=
  (r.expire nowNs).2.enterEpoch packetEpoch

theorem shrinks_prepared (r : Reassembler) (packetEpoch : UInt32) (nowNs : UInt64) :
    r.Shrinks (r.prepared packetEpoch nowNs) :=
  (r.shrinks_expire nowNs).trans (shrinks_enterEpoch _ _)

theorem get?_prepared (htimely : r.Timely key nowNs) (hep : key.codecEpoch = epoch) :
    (r.prepared epoch nowNs).frames.get? key = r.frames.get? key :=
  ((r.expire nowNs).2.get?_enterEpoch hep).trans (get?_expire htimely)

theorem activeCodecEpoch_removeFrames (r : Reassembler) (keys : List FrameKey) :
    (r.removeFrames keys).activeCodecEpoch = r.activeCodecEpoch := by
  induction keys generalizing r with
  | nil => rfl
  | cons own keys ih => exact (ih (r.removeFrame own)).trans (r.activeCodecEpoch_removeFrame own)

theorem activeCodecEpoch_expire (r : Reassembler) (nowNs : UInt64) :
    (r.expire nowNs).2.activeCodecEpoch = r.activeCodecEpoch :=
  r.activeCodecEpoch_removeFrames _

theorem activeCodecEpoch_prepared (hep : r.activeCodecEpoch ≤ epoch) :
    (r.prepared epoch nowNs).activeCodecEpoch = epoch := by
  unfold prepared enterEpoch
  split
  · rfl
  rename_i hnot
  rw [activeCodecEpoch_expire] at hnot ⊢
  exact UInt32.le_antisymm hep (UInt32.not_lt.1 hnot)

variable (fuel : Nat)

theorem activeCodecEpoch_makeRoom (r : Reassembler) (declared : Nat) :
    (makeRoom fuel r declared).2.activeCodecEpoch = r.activeCodecEpoch := by
  induction fuel generalizing r with
  | zero => rfl
  | succ fuel ih =>
    rw [makeRoom]
    split
    · split
      · rfl
      · exact (ih _).trans (r.activeCodecEpoch_removeFrame _)
    · rfl

theorem activeCodecEpoch_admitFrame (r : Reassembler) (header : MediaHeader) (nowNs : UInt64) :
    (r.admitFrame header nowNs).2.activeCodecEpoch = r.activeCodecEpoch := by
  unfold admitFrame
  dsimp only
  split
  · split_ifs
    · rfl
    · exact r.activeCodecEpoch_removeFrame _
  · have hroom := activeCodecEpoch_makeRoom (r.frames.length + 1) r header.frameLen.toNat
    unfold makeRoomForNewFrame
    split
    all_goals
      rename_i heq
      rwa [heq] at hroom

theorem activeCodecEpoch_storeFragment :
    (r.storeFragment own part packet nowNs).2.activeCodecEpoch = r.activeCodecEpoch := by
  unfold storeFragment
  dsimp only
  split
  · exact r.activeCodecEpoch_removeFrame _
  split
  · rfl
  · unfold finishFragment
    split
    · split
      all_goals exact activeCodecEpoch_removeFrame _ _
    · rfl
  · exact r.activeCodecEpoch_removeFrame _

/-- Frames that are removed give their entries back. -/
theorem Shrinks.fragmentEntries_le (h : r.Shrinks r') (hsnd : r.Sound) :
    r'.fragmentEntries ≤ r.fragmentEntries := by
  rw [(h.sound hsnd).stored, hsnd.stored]
  refine r'.frames.total_le_sum _ Prod.fst
    (fun entry : FrameKey × PartialFrame => entry.2.fragments.length) ?_
  exact fun entry hent => ⟨entry, h.frames entry hent, rfl, le_refl _⟩

/-- A new frame takes no place of the other frame: it has one already, or there is a free one, or
the other frame is not in flight. -/
def Spares (r : Reassembler) (header : MediaHeader) (key : FrameKey) : Prop :=
  r.frames.get? (.fromHeader header) ≠ none ∨ r.isFull header.frameLen.toNat = false ∨
    r.frames.get? key = none

/-- The loop only removes frames, whether or not it makes room. -/
theorem shrinks_makeRoom (r : Reassembler) (declared : Nat) :
    r.Shrinks (makeRoom fuel r declared).2 := by
  induction fuel generalizing r with
  | zero => exact .refl r
  | succ fuel ih =>
    rw [makeRoom]
    split
    · split
      · exact .refl r
      · exact (r.shrinks_evict _).trans (ih _)
    · exact .refl r

theorem get?_admitFrame {header : MediaHeader} (hne : key ≠ .fromHeader header)
    (hspares : r.Spares header key) (nowNs : UInt64) :
    (r.admitFrame header nowNs).2.frames.get? key = r.frames.get? key := by
  unfold admitFrame
  dsimp only
  cases hget : r.frames.get? (.fromHeader header) with
  | some existing =>
    dsimp only
    split_ifs
    · rfl
    · exact r.get?_removeFrame_of_ne hne
  | none =>
    have hsame : (r.makeRoomForNewFrame header.frameLen.toNat).2.frames.get? key =
        r.frames.get? key := by
      rcases hspares with hfnd | hfree | hnone
      · exact absurd hget hfnd
      · rw [makeRoomForNewFrame, makeRoom, if_neg (Bool.eq_false_iff.1 hfree)]
      · rw [hnone]
        exact (shrinks_makeRoom ..).get?_eq_none hnone
    dsimp only
    split
    · next heq =>
      rwa [heq] at hsame
    next heq =>
    rw [heq] at hsame
    exact (get?_insert_of_ne hne).trans hsame

theorem get?_finishFragment (r : Reassembler) (hne : key ≠ own) (bytes : Nat) (nowNs : UInt64) :
    (r.finishFragment own part bytes nowNs).2.frames.get? key = r.frames.get? key := by
  have hinsert : (r.frames.insert own part).get? key = r.frames.get? key :=
    get?_insert_of_ne hne
  unfold finishFragment
  split
  · split
    all_goals exact (get?_removeFrame_of_ne _ hne).trans hinsert
  · exact hinsert

theorem get?_storeFragment (hne : key ≠ own) :
    (r.storeFragment own part packet nowNs).2.frames.get? key = r.frames.get? key := by
  unfold storeFragment
  dsimp only
  split
  · exact r.get?_removeFrame_of_ne hne
  split
  · rfl
  · exact r.get?_finishFragment hne _ nowNs
  · exact r.get?_removeFrame_of_ne hne

/-! ## A frame that takes the place of another one -/

/-- The frame that is evicted gives an entry back. -/
theorem fragmentEntries_evict_lt (h : r.Settled) (hvictim : r.victim = some key) :
    (r.evict key).fragmentEntries < r.fragmentEntries := by
  obtain ⟨part, hmem⟩ := r.mem_of_victim hvictim
  have hheld : 0 < part.fragments.length := length_pos_iff.2 (h.waiting _ hmem).nonempty
  have htotal := r.frames.total_erase_add (fun _ part => part.fragments.length)
    (get?_eq_some.2 hmem)
  have hframes : (r.evict key).frames = r.frames.erase key := r.frames_removeFrame key
  rw [((r.shrinks_evict key).sound h.toSound).stored, h.stored, hframes]
  omega

theorem fragmentEntries_makeRoom_lt {declared : Nat} (h : r.Settled)
    (hfull : r.isFull declared = true)
    (hdeclared : declared ≤ r.config.maxBufferedBytes.toNat) :
    (makeRoom (fuel + 1) r declared).2.fragmentEntries < r.fragmentEntries := by
  rw [makeRoom, if_pos hfull]
  cases hvictim : r.victim with
  | none =>
    rw [h.not_isFull hdeclared (r.victim_eq_none hvictim)] at hfull
    cases hfull
  | some key =>
    have hevicted := h.shrinks (r.shrinks_evict key)
    exact Nat.lt_of_le_of_lt
      ((shrinks_makeRoom fuel _ declared).fragmentEntries_le hevicted.toSound)
      (fragmentEntries_evict_lt h hvictim)

/-- The first fragment of a frame is stored, as long as there is an entry for it. -/
theorem storeFragment_new {header : MediaHeader} (h : r.Sound)
    (hget : r.frames.get? key = some (.new header nowNs)) (hpkt : packet.payload ≠ [])
    (hins : packet.header.fragmentOffset.toNat + packet.payload.length ≤ header.frameLen.toNat)
    (hroom : r.fragmentEntries < r.config.maxFragmentEntries.toNat) :
    (r.storeFragment key (.new header nowNs) packet nowNs).1.isOk = true := by
  have hcheck : checkInsertion (.new header nowNs) packet.header.fragmentOffset.toNat
      packet.payload r.config.maxFragmentsPerFrame.toNat = .ok () := by
    have hone : r.config.maxFragmentsPerFrame.toNat ≠ 0 := by
      have hvalid := r.valid
      unfold ReassemblyConfig.validate at hvalid
      split_ifs at hvalid with hinv
      exact fun hzero => hinv (.inr (.inr (.inl (UInt64.toNat_inj.1 hzero))))
    exact if_neg fun hfull => hone (le_zero.1 hfull)
  have hadded := h.storeAdded nowNs hget hpkt hins rfl hcheck hroom rfl
  have hinsert : insertFragment (.new header nowNs) packet.header.fragmentOffset.toNat
      packet.payload nowNs r.config.maxFragmentsPerFrame.toNat =
        (.ok (.added packet.payload.length), addFragment (.new header nowNs)
          packet.header.fragmentOffset.toNat packet.payload nowNs) := by
    have hlen := header.frameLen.toNat_lt
    rw [insertFragment, if_neg (by omega), hcheck]
    rfl
  unfold storeFragment
  dsimp only
  rw [if_neg (by omega), hinsert]
  dsimp only
  by_cases hfull : (addFragment (.new header nowNs) packet.header.fragmentOffset.toNat
      packet.payload nowNs).receivedBytes = header.frameLen.toNat
  · obtain ⟨r', hres, -⟩ :=
      finishFragment_of_full nowNs (hadded r.stats).1 (fun stats => (hadded stats).2) hfull
    rw [hres]
    rfl
  · obtain ⟨r', hres, -⟩ := finishFragment_of_short nowNs (fun stats => (hadded stats).2) hfull
    rw [hres]
    rfl

end Reassembler

/-! ## A call with a packet of an admissible frame -/

namespace Shipment

open Reassembler

variable {s : Shipment} {r : Reassembler} {epoch : UInt32} {packet : MediaPacket}
  {delivered : List (List UInt8)}

section Call

variable (hfit : s.Admissible r.config epoch) (hep : r.activeCodecEpoch ≤ epoch)
  (hpkt : packet ∈ s.mediaPackets) (nowNs : UInt64)

include hfit hpkt

theorem Admissible.within :
    packet.header.frameLen.toNat ≤ (r.prepared epoch nowNs).config.maxBufferedBytes.toNat := by
  rw [(r.shrinks_prepared epoch nowNs).config, (s.packets_eq.2.header packet hpkt).frameLen]
  exact hfit.bytes

include hep

/-- The checks in front of the frame let the packet pass. -/
theorem Admissible.ingest_eq :
    r.ingest (packetBytes packet) nowNs =
      match (r.prepared epoch nowNs).admitFrame packet.header nowNs with
      | (.error e, r) => (.error e, r)
      | (.ok (), r) =>
        match r.frames.get? s.key with
        | none => (.error .reassemblyCapacity, r)
        | some part => r.storeFragment s.key part packet nowNs := by
  have hhdr := s.packets_eq.2.header packet hpkt
  have hmem := packetBytes_mem hpkt
  have hexpire := r.shrinks_expire nowNs
  have hlen : ¬ (r.expire nowNs).2.config.maxDatagramBytes.toNat <
      (packetBytes packet).length := by
    rw [hexpire.config]
    exact not_lt.2 (le_trans (length_le hmem) hfit.budget)
  have hparity : ¬ packet.header.flags &&& MediaFlags.parity ≠ 0 := by
    rw [hhdr.flags]
    exact not_not.2 hfit.parity
  have hsame : packet.header.codecEpoch = epoch := hhdr.codecEpoch.trans hfit.epoch
  have hstale : ¬ epoch < (r.expire nowNs).2.activeCodecEpoch := by
    rw [activeCodecEpoch_expire]
    exact UInt32.not_lt.2 hep
  have hbudget := not_lt.2 (hfit.within hpkt nowNs)
  unfold ingest
  rw [if_neg hlen, s.packets_eq.2.decode packet hpkt]
  unfold ingestPacket
  dsimp only
  rw [if_neg hparity, hsame, if_neg hstale, fromHeader_eq_key hhdr]
  exact if_neg hbudget

theorem Admissible.activeCodecEpoch_ingest :
    (r.ingest (packetBytes packet) nowNs).2.activeCodecEpoch = epoch := by
  have hfr := activeCodecEpoch_admitFrame (r.prepared epoch nowNs) packet.header nowNs
  rw [activeCodecEpoch_prepared hep] at hfr
  rw [hfit.ingest_eq hep hpkt nowNs]
  split
  · rename_i heq
    rwa [heq] at hfr
  rename_i heq
  rw [heq] at hfr
  split
  · exact hfr
  · exact (activeCodecEpoch_storeFragment).trans hfr

/-- A frame in flight for which the packet takes no place. -/
theorem Admissible.ingest_other {key : FrameKey} (hne : key ≠ s.key)
    (hkey : key.codecEpoch = epoch) (htimely : r.Timely key nowNs)
    (hspares : (r.prepared epoch nowNs).Spares packet.header key) :
    (r.ingest (packetBytes packet) nowNs).2.frames.get? key = r.frames.get? key := by
  have hown := fromHeader_eq_key (s.packets_eq.2.header packet hpkt)
  have hfr := get?_admitFrame (hown ▸ hne) hspares nowNs
  rw [get?_prepared htimely hkey] at hfr
  rw [hfit.ingest_eq hep hpkt nowNs]
  split
  · rename_i heq
    rwa [heq] at hfr
  rename_i heq
  rw [heq] at hfr
  split
  · exact hfr
  · exact (get?_storeFragment hne).trans hfr

/-- The frame of the packet: it comes out with its last packet, and is held until then. -/
theorem Admissible.ingest_own (hsnd : r.Sound)
    (hheld : ∀ part, (r.prepared epoch nowNs).frames.get? s.key = some part →
      s.Holds delivered part)
    (hpresent : ∀ dgram ∈ s.packets, dgram ∈ delivered →
      ∃ part, (r.prepared epoch nowNs).frames.get? s.key = some part)
    (hmiss : ¬ s.IsComplete delivered)
    (hroom : packetBytes packet ∉ delivered →
      (r.prepared epoch nowNs).fragmentEntries < r.config.maxFragmentEntries.toNat) :
    ∃ outcome r' r'', r.ingest (packetBytes packet) nowNs = (.ok outcome, r'') ∧
      (∀ entry ∈ r'.frames.entries, entry.1 ≠ s.key → entry ∈ r.frames.entries) ∧
      s.Stowed (delivered ++ [packetBytes packet])
        (((r.prepared epoch nowNs).frames.get? s.key).elim nowNs firstSeenNs) r' r'' ∧
      s.Yields (delivered ++ [packetBytes packet]) outcome := by
  have hhdr := s.packets_eq.2.header packet hpkt
  have hshr := r.shrinks_prepared epoch nowNs
  have hprep := hshr.sound hsnd
  obtain ⟨r', part, hfr, hsnd', hcfg, hothers, hget, hfirst, hholds, hentries⟩ :
      ∃ r' part, (r.prepared epoch nowNs).admitFrame packet.header nowNs = (.ok (), r') ∧
        r'.Sound ∧ r'.config = r.config ∧
        (∀ entry ∈ r'.frames.entries, entry.1 ≠ s.key → entry ∈ r.frames.entries) ∧
        r'.frames.get? s.key = some part ∧
        ((r.prepared epoch nowNs).frames.get? s.key).elim nowNs firstSeenNs = part.firstSeenNs ∧
        s.Holds delivered part ∧
        r'.fragmentEntries ≤ (r.prepared epoch nowNs).fragmentEntries := by
    unfold admitFrame
    dsimp only
    rw [fromHeader_eq_key hhdr]
    cases hget : (r.prepared epoch nowNs).frames.get? s.key with
    | some part =>
      have hholds := hheld part hget
      dsimp only
      rw [if_pos (hholds.header.metadataMatches hhdr)]
      exact ⟨_, part, rfl, hprep, hshr.config, fun entry hent _ =>
        hshr.frames entry hent, hget, rfl, hholds, le_refl _⟩
    | none =>
      have hnone : ∀ dgram ∈ s.packets, dgram ∉ delivered := by
        intro dgram hmem hdeliv
        obtain ⟨part, hpart⟩ := hpresent dgram hmem hdeliv
        rw [hget] at hpart
        cases hpart
      obtain ⟨_, hmake, hroom', hfull⟩ :=
        makeRoom_eq_ok hprep (hfit.within hpkt nowNs) (lt_succ_self _)
      rw [makeRoomForNewFrame, hmake]
      refine ⟨_, .new packet.header nowNs, rfl,
        (hroom'.sound hprep).insertNew (valid_header hpkt) (hroom'.get?_eq_none hget) hfull,
        hroom'.config.trans hshr.config, ?_, get?_insert_self, rfl, holds_new hhdr hnone,
        hroom'.fragmentEntries_le hprep⟩
      exact forall_mem_insert (absurd rfl) fun entry hent _ => (hshr.trans hroom').frames entry hent
  have hstore : ∃ outcome r'', r'.storeFragment s.key part packet nowNs = (.ok outcome, r'') ∧
      s.Stowed (delivered ++ [packetBytes packet]) part.firstSeenNs r' r'' ∧
      s.Yields (delivered ++ [packetBytes packet]) outcome := by
    by_cases hdeliv : packetBytes packet ∈ delivered
    · exact store_again hsnd' hget hholds hpkt hmiss hdeliv nowNs
    refine store_missing hsnd' hget hholds hpkt hdeliv ?_ ?_ nowNs
    · rw [hcfg]
      exact hfit.fragments
    · rw [hcfg]
      exact lt_of_le_of_lt hentries (hroom hdeliv)
  obtain ⟨outcome, r'', hstor, hstowed, hyields⟩ := hstore
  refine ⟨outcome, r', r'', ?_, hothers, hfirst ▸ hstowed, hyields⟩
  rw [hfit.ingest_eq hep hpkt nowNs, hfr]
  dsimp only
  rw [hget]
  exact hstor

end Call

end Shipment

/-! ## A family of frames -/

/-- Frames of one codec epoch with keys of their own. -/
structure Family (config : ReassemblyConfig) (epoch : UInt32) (frames : List Shipment) :
    Prop where
  admissible : ∀ s ∈ frames, s.Admissible config epoch
  eq_of_key : ∀ s ∈ frames, ∀ s' ∈ frames, s.key = s'.key → s = s'

/-- The reassembler has what has been delivered of the frames that are looked for, and none of
them is complete. -/
structure Awaits (config : ReassemblyConfig) (epoch : UInt32) (frames : List Shipment)
    (sought : Shipment → Prop) (delivered : List (List UInt8)) (r : Reassembler) : Prop where
  settled : r.Settled
  config : r.config = config
  epoch : r.activeCodecEpoch ≤ epoch
  held : ∀ s ∈ frames, sought s → ∀ part, r.frames.get? s.key = some part → s.Holds delivered part
  present : ∀ s ∈ frames, sought s → ∀ datagram ∈ s.packets,
    datagram ∈ delivered → ∃ part, r.frames.get? s.key = some part
  missing : ∀ s ∈ frames, sought s → ¬ s.IsComplete delivered

section Family

variable {config : ReassemblyConfig} {epoch : UInt32} {frames : List Shipment}
  {sought : Shipment → Prop} {delivered : List (List UInt8)} {r r' : Reassembler}
  {s s' : Shipment} {packet : MediaPacket} {nowNs : UInt64}

/-- A datagram is a packet of one frame only. -/
theorem Family.eq_of_mem (h : Family config epoch frames) (hs : s ∈ frames) (hs' : s' ∈ frames)
    {dgram : List UInt8} (hmem : dgram ∈ s.packets) (hmem' : dgram ∈ s'.packets) :
    s = s' := by
  obtain ⟨_, _, _, hdec, hhdr⟩ := mem_packets hmem
  obtain ⟨_, _, _, hdec', hhdr'⟩ := mem_packets hmem'
  rw [hdec, Except.ok.injEq] at hdec'
  subst hdec'
  exact h.eq_of_key s hs s' hs' ((fromHeader_eq_key hhdr).symm.trans (fromHeader_eq_key hhdr'))

section

variable (hwait : Awaits config epoch frames sought delivered r)
  (hfamily : Family config epoch frames) (hs : s ∈ frames) (hpkt : packet ∈ s.mediaPackets)
  (hspares : ∀ other ∈ frames, sought other → other.key ≠ s.key →
    (r.prepared epoch nowNs).Spares packet.header other.key)
  (htimely : ∀ other ∈ frames, sought other → r.Timely other.key nowNs)

include hwait hfamily hs hpkt hspares htimely

/-- The invariant after a packet of `s`, from what has become of `s`. -/
theorem Awaits.ingest {sought' : Shipment → Prop} (hsought : ∀ other, sought' other → sought other)
    (hr' : (r.ingest (packetBytes packet) nowNs).2 = r')
    (hown : sought' s → ¬ s.IsComplete (delivered ++ [packetBytes packet]) ∧
      ∃ part, r'.frames.get? s.key = some part ∧ s.Holds (delivered ++ [packetBytes packet]) part) :
    Awaits config epoch frames sought' (delivered ++ [packetBytes packet]) r' := by
  have hfit : s.Admissible r.config epoch := hwait.config ▸ hfamily.admissible s hs
  have hoth : ∀ other ∈ frames, other ≠ s → packetBytes packet ∉ other.packets :=
    fun other hoth hne hmem =>
      hne (hfamily.eq_of_mem hoth hs hmem (packetBytes_mem hpkt))
  have hget : ∀ other ∈ frames, sought' other → other ≠ s →
      r'.frames.get? other.key = r.frames.get? other.key := by
    intro other hmem hstill hne
    have hkey : other.key ≠ s.key := fun heq => hne (hfamily.eq_of_key other hmem s hs heq)
    have hsought := hsought other hstill
    rw [← hr']
    exact hfit.ingest_other hwait.epoch hpkt nowNs hkey
      (hfamily.admissible other hmem).epoch (htimely other hmem hsought)
      (hspares other hmem hsought hkey)
  have hkeeps := (Reassembler.ingest_cases hwait.settled.toSound (packetBytes packet)
    nowNs).settled hwait.settled
  rw [hr'] at hkeeps
  refine ⟨hkeeps.1, hkeeps.2.trans hwait.config, ?_, ?_, ?_, ?_⟩
  · rw [← hr', hfit.activeCodecEpoch_ingest hwait.epoch hpkt nowNs]
    exact UInt32.le_refl _
  · intro other hmem hstill part hpart
    by_cases hsame : other = s
    · subst hsame
      obtain ⟨-, held, hheld, hholds⟩ := hown hstill
      rw [hheld, Option.some.injEq] at hpart
      exact hpart ▸ hholds
    · rw [hget other hmem hstill hsame] at hpart
      exact (hwait.held other hmem (hsought other hstill) part hpart).append (hoth other hmem hsame)
  · intro other hmem hstill dgram hdgram hdeliv
    by_cases hsame : other = s
    · subst hsame
      obtain ⟨-, held, hheld, -⟩ := hown hstill
      exact ⟨held, hheld⟩
    · rw [hget other hmem hstill hsame]
      exact hwait.present other hmem (hsought other hstill) dgram hdgram
        ((mem_append_of_not_mem (hoth other hmem hsame) hdgram).1 hdeliv)
  · intro other hmem hstill
    by_cases hsame : other = s
    · subst hsame
      exact (hown hstill).1
    · rw [isComplete_append (hoth other hmem hsame)]
      exact hwait.missing other hmem (hsought other hstill)

/-- A packet of a frame that is looked for.  The frame comes out with its last packet, and then
it must not be looked for any more. -/
theorem Awaits.ingest_own (hown : sought s)
    (hroom : packetBytes packet ∉ delivered →
      (r.prepared epoch nowNs).fragmentEntries < config.maxFragmentEntries.toNat) :
    ∃ outcome placed r', r.ingest (packetBytes packet) nowNs = (.ok outcome, r') ∧
      (∀ entry ∈ placed.frames.entries, entry.1 ≠ s.key → entry ∈ r.frames.entries) ∧
      s.Stowed (delivered ++ [packetBytes packet])
        ((r.frames.get? s.key).elim nowNs firstSeenNs) placed r' ∧
      s.Yields (delivered ++ [packetBytes packet]) outcome ∧
      ∀ sought', (∀ other, sought' other → sought other) →
        (s.IsComplete (delivered ++ [packetBytes packet]) → ¬ sought' s) →
        Awaits config epoch frames sought' (delivered ++ [packetBytes packet]) r' := by
  have hfit : s.Admissible r.config epoch := hwait.config ▸ hfamily.admissible s hs
  have hsame : (r.prepared epoch nowNs).frames.get? s.key = r.frames.get? s.key :=
    Reassembler.get?_prepared (htimely s hs hown) hfit.epoch
  have hheld := hwait.held s hs hown
  have hpresent := hwait.present s hs hown
  rw [← hsame] at hheld hpresent ⊢
  rw [← hwait.config] at hroom
  obtain ⟨outcome, placed, r', hingest, hothers, hstowed, hyields⟩ :=
    hfit.ingest_own hwait.epoch hpkt nowNs hwait.settled.toSound hheld hpresent
      (hwait.missing s hs hown) hroom
  refine ⟨outcome, placed, r', hingest, hothers, hstowed, hyields, fun sought' hsought hdone => ?_⟩
  refine hwait.ingest hfamily hs hpkt hspares htimely hsought (congrArg Prod.snd hingest) ?_
  intro hstill
  have hmiss : ¬ s.IsComplete (delivered ++ [packetBytes packet]) :=
    fun hcompl => hdone hcompl hstill
  obtain ⟨part, hpart⟩ := hstowed.present hmiss
  exact ⟨hmiss, part, hpart, (hstowed.held part hpart).1⟩

end

end Family

end LatencyDesk.Transport
