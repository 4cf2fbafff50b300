import LatencyDesk.Transport.Bystanders

/-!
# Frames are delivered whole

A family of frames that fits into a reassembler is fragmented, and the packets
arrive in any order, with duplicates, as long as a packet of a frame does not
arrive after the frame is complete and no frame grows too old.  Then every call
of `ingest` succeeds and every frame comes out once, with its own bytes and
metadata (`every_frame_arrives`).

`Tracks` is the invariant: the reassembler holds exactly the frames that are
under way, each with the pieces that have been delivered.  A fresh reassembler
starts at codec epoch 1, so the epoch of the frames must be at least 1.
-/

namespace LatencyDesk.Transport

open Lib Protocol List Option OrderedMap ReassemblyConfig Shipment Prod Reassembler Nat Machine

/-- The family of frames fits into a reassembler with the configuration. -/
structure Fits (config : ReassemblyConfig) (shipments : List Shipment) (epoch : UInt32) :
    Prop where
  inflight : shipments.length ≤ config.maxInflightFrames.toNat
  keys : shipments.Pairwise fun a b => a.key ≠ b.key
  epochs : ∀ s ∈ shipments, s.spec.codecEpoch = epoch
  parity : ∀ s ∈ shipments, s.spec.flags &&& MediaFlags.parity = 0
  bytes : (shipments.map fun s => s.frame.length).sum ≤ config.maxBufferedBytes.toNat
  budget : ∀ s ∈ shipments, s.budget ≤ config.maxDatagramBytes.toNat
  fragments : ∀ s ∈ shipments, s.packets.length ≤ config.maxFragmentsPerFrame.toNat
  stored : (shipments.map fun s => s.packets.length).sum ≤ config.maxFragmentEntries.toNat

/-- The frame has a delivered packet and a missing one. -/
structure Shipment.UnderWay (s : Shipment) (deliveries : List (List UInt8 × UInt64))
    (first : UInt64) : Prop where
  seen : s.firstSeen deliveries = some first
  missing : ¬ s.IsComplete (deliveries.map Prod.fst)

/-- A delivery that may come next. -/
structure MayFollow (config : ReassemblyConfig) (shipments : List Shipment)
    (deliveries : List (List UInt8 × UInt64)) (delivery : List UInt8 × UInt64) : Prop where
  /-- It is a packet of a frame that is not complete yet. -/
  sent : ∃ s ∈ shipments, delivery.1 ∈ s.packets ∧ ¬ s.IsComplete (deliveries.map Prod.fst)
  /-- It comes before any frame under way is too old. -/
  timely : ∀ s ∈ shipments, ∀ first, s.UnderWay deliveries first →
    saturatingSub delivery.2 first < config.maxFrameAgeNs

/-- Every delivery may follow the ones before it. -/
def Orderly (config : ReassemblyConfig) (shipments : List Shipment)
    (deliveries : List (List UInt8 × UInt64)) : Prop :=
  ∀ earlier delivery later, deliveries = earlier ++ delivery :: later →
    MayFollow config shipments earlier delivery

section

variable {config : ReassemblyConfig} {shipments : List Shipment} {epoch : UInt32}
  {s s' : Shipment} {deliveries : List (List UInt8 × UInt64)} {datagram : List UInt8}
  {nowNs : UInt64}

/-! ## The frames of a family -/

theorem Fits.family (h : Fits config shipments epoch) : Family config epoch shipments where
  admissible s hs := by
    have hle := single_le_sum (fun _ _ => zero_le _) s.frame.length
      (mem_map.2 ⟨s, hs, rfl⟩ : s.frame.length ∈ shipments.map fun s => s.frame.length)
    exact ⟨h.epochs s hs, h.parity s hs, le_trans hle h.bytes, h.budget s hs, h.fragments s hs⟩
  eq_of_key s hs s' hs' hkey := by
    have : Std.Symm fun a b : Shipment => a.key ≠ b.key := ⟨fun _ _ h => h.symm⟩
    by_contra hne
    exact h.keys.forall hs hs' hne hkey

/-- A partial frame for one of the frames. -/
def Stands (shipments : List Shipment) (delivered : List (List UInt8))
    (entry : FrameKey × PartialFrame) : Prop :=
  ∃ s ∈ shipments, s.key = entry.1 ∧ s.Holds delivered entry.2

variable {frames : OrderedMap FrameKey PartialFrame} {delivered : List (List UInt8)}

/-- Partial frames for frames that fit have room together. -/
theorem Fits.room (h : Fits config shipments epoch)
    (hfrs : ∀ entry ∈ frames.entries, Stands shipments delivered entry) :
    frames.length ≤ config.maxInflightFrames.toNat ∧
      frames.total (fun _ part => part.declared) ≤ config.maxBufferedBytes.toNat := by
  have hone : (shipments.map fun _ => 1).sum = shipments.length := by simp
  have hcount : frames.length ≤ shipments.length := by
    rw [length_eq_total, ← hone]
    refine frames.total_le_sum _ key _ fun entry hent => ?_
    obtain ⟨s, hs, hkey, _⟩ := hfrs entry hent
    exact ⟨s, hs, hkey, le_refl 1⟩
  refine ⟨le_trans hcount h.inflight, le_trans ?_ h.bytes⟩
  refine frames.total_le_sum _ key _ fun entry hent => ?_
  obtain ⟨s, hs, hkey, hholds⟩ := hfrs entry hent
  exact ⟨s, hs, hkey, le_of_eq hholds.declared⟩

/-- While a packet is missing, there is room for one more piece. -/
theorem Fits.entry (h : Fits config shipments epoch)
    (hfrs : ∀ entry ∈ frames.entries, Stands shipments delivered entry) (hs : s ∈ shipments)
    (hmem : datagram ∈ s.packets) (hmiss : datagram ∉ delivered) :
    frames.total (fun _ part => part.fragments.length) < config.maxFragmentEntries.toNat := by
  have htotal : frames.total (fun _ part => part.fragments.length) ≤
      (shipments.map fun s => (s.pieces delivered).length).sum := by
    refine frames.total_le_sum _ key _ fun entry hent => ?_
    obtain ⟨s, hs, hkey, hholds⟩ := hfrs entry hent
    exact ⟨s, hs, hkey, le_of_eq (congrArg length hholds.stored)⟩
  have hless := sum_lt_sum _ _ (fun s _ => s.length_pieces_le delivered)
    ⟨s, hs, s.length_pieces_lt hmem hmiss⟩
  exact lt_of_le_of_lt htotal (lt_of_lt_of_le hless h.stored)

/-! ## One more delivery -/

theorem isComplete_snoc_of_not_mem (h : datagram ∉ s.packets) :
    s.IsComplete ((deliveries ++ [(datagram, nowNs)]).map fst) ↔
      s.IsComplete (deliveries.map fst) := by
  rw [map_append]
  exact isComplete_append h

theorem firstSeen_snoc_of_not_mem (h : datagram ∉ s.packets) :
    s.firstSeen (deliveries ++ [(datagram, nowNs)]) = s.firstSeen deliveries := by
  unfold firstSeen
  rw [find?_append, find?_cons_of_neg (by simpa using h), find?_nil, or_none]

theorem firstSeen_snoc_of_seen {first : UInt64} (h : s.firstSeen deliveries = some first)
    {delivery : List UInt8 × UInt64} :
    s.firstSeen (deliveries ++ [delivery]) = some first := by
  unfold firstSeen at h ⊢
  rw [map_eq_some_iff] at h
  obtain ⟨_, hfind, hfirst⟩ := h
  rw [find?_append, hfind, some_or, map_some, hfirst]

theorem firstSeen_eq_none :
    s.firstSeen deliveries = none ↔ ∀ datagram ∈ s.packets, datagram ∉ deliveries.map fst := by
  unfold firstSeen
  rw [map_eq_none_iff, find?_eq_none]
  constructor
  · intro h datagram hdgram hmem
    obtain ⟨delivery, hdel, rfl⟩ := mem_map.1 hmem
    exact h delivery hdel (decide_eq_true hdgram)
  · intro h delivery hdel hmem
    exact h delivery.1 (of_decide_eq_true hmem) (mem_map.2 ⟨delivery, hdel, rfl⟩)

theorem firstSeen_snoc_of_none (h : s.firstSeen deliveries = none) (hmem : datagram ∈ s.packets) :
    s.firstSeen (deliveries ++ [(datagram, nowNs)]) = some nowNs := by
  unfold firstSeen at h ⊢
  rw [map_eq_none_iff] at h
  rw [find?_append, h, none_or, find?_cons_of_pos (by simpa using hmem),
    map_some]

/-! ## The path of an honest packet -/

/-- The reassembler holds the frames under way, each with its delivered pieces. -/
structure Tracks (config : ReassemblyConfig) (shipments : List Shipment) (epoch : UInt32)
    (deliveries : List (List UInt8 × UInt64)) (r : Reassembler) : Prop where
  settled : r.Settled
  config : r.config = config
  epoch : r.activeCodecEpoch ≤ epoch
  held : ∀ entry ∈ r.frames.entries, ∃ s ∈ shipments, s.key = entry.1 ∧
    s.Holds (deliveries.map Prod.fst) entry.2 ∧ s.UnderWay deliveries entry.2.firstSeenNs
  present : ∀ s ∈ shipments, ∀ first, s.UnderWay deliveries first →
    ∃ part, r.frames.get? s.key = some part

variable {r r' : Reassembler} {part : PartialFrame} {pkt : MediaPacket}

variable (hfits : Fits config shipments epoch) (hs : s ∈ shipments) (hmem : datagram ∈ s.packets)
  (hmiss : ¬ s.IsComplete (deliveries.map Prod.fst))

section

variable (h : Tracks config shipments epoch deliveries r)

include h

include hfits hs in
/-- The partial frame of a frame is found under its key. -/
theorem Tracks.get (hget : r.frames.get? s.key = some part) :
    s.Holds (deliveries.map fst) part ∧ s.UnderWay deliveries part.firstSeenNs := by
  obtain ⟨s', hs', hkey, hholds, hunder⟩ := h.held _ (get?_eq_some.1 hget)
  have heq : s' = s := hfits.family.eq_of_key s' hs' s hs hkey
  subst heq
  exact ⟨hholds, hunder⟩

theorem Tracks.stands (hshr : r.Shrinks r') {entry : FrameKey × PartialFrame}
    (hent : entry ∈ r'.frames.entries) :
    Stands shipments (deliveries.map fst) entry := by
  obtain ⟨s, hs, hkey, hholds, _⟩ := h.held entry (hshr.frames entry hent)
  exact ⟨s, hs, hkey, hholds⟩

include hfits in
/-- The frames that are not complete are looked for. -/
theorem Tracks.awaits :
    Awaits config epoch shipments (fun s => ¬ s.IsComplete (deliveries.map fst))
      (deliveries.map fst) r where
  settled := h.settled
  config := h.config
  epoch := h.epoch
  held _ hs _ _ hpart := (h.get hfits hs hpart).1
  present s hs hmiss datagram hmem hdeliv := by
    cases hseen : s.firstSeen deliveries with
    | none => exact absurd hdeliv (firstSeen_eq_none.1 hseen datagram hmem)
    | some first => exact h.present s hs first ⟨hseen, hmiss⟩
  missing _ _ hmiss := hmiss

include hfits hs hmiss in
/-- There is room for every frame of the family, so none is evicted. -/
theorem Tracks.spares (hpkt : pkt ∈ s.mediaPackets) (htimely : r.Timely s.key nowNs)
    (key : FrameKey) :
    (r.prepared epoch nowNs).Spares pkt.header key := by
  have hhdr := s.packets_eq.2.header pkt hpkt
  have hshr := r.shrinks_prepared epoch nowNs
  unfold Reassembler.Spares
  rw [fromHeader_eq_key hhdr]
  cases hget : (r.prepared epoch nowNs).frames.get? s.key with
  | some part => exact .inl (some_ne_none part)
  | none =>
    refine .inr (.inl ?_)
    have hnone : ∀ datagram ∈ s.packets, datagram ∉ deliveries.map fst := by
      intro datagram hmem hdeliv
      obtain ⟨_, hpart⟩ := (h.awaits hfits).present s hs hmiss datagram hmem hdeliv
      rw [get?_prepared htimely (hfits.epochs s hs), hpart] at hget
      cases hget
    have hstands : ∀ entry ∈ ((r.prepared epoch nowNs).frames.insert s.key
        (.new pkt.header nowNs)).entries, Stands shipments (deliveries.map fst) entry :=
      forall_mem_insert ⟨s, hs, rfl, holds_new hhdr hnone⟩ fun _ => h.stands hshr
    have hroom := hfits.room hstands
    rw [length_eq_total, total_insert, total_insert,
      erase_of_get?_eq_none hget, ← length_eq_total,
      ← (hshr.sound h.settled.toSound).reserved, ← h.config, ← hshr.config] at hroom
    exact isFull_eq_false _ |>.2 hroom

include hfits hs hmem hmiss in
/-- One call of `ingest` with a delivery that may come next. -/
theorem Tracks.ingest
    (htimely : ∀ s ∈ shipments, ∀ first, s.UnderWay deliveries first →
      saturatingSub nowNs first < config.maxFrameAgeNs) :
    ∃ outcome r', r.ingest datagram nowNs = (.ok outcome, r') ∧
      Tracks config shipments epoch (deliveries ++ [(datagram, nowNs)]) r' ∧
      s.Yields ((deliveries ++ [(datagram, nowNs)]).map fst) outcome := by
  obtain ⟨pkt, hpkt, rfl, _⟩ := mem_packets hmem
  have hfamily := hfits.family
  have hwait := h.awaits hfits
  have htimely' : ∀ other ∈ shipments, r.Timely other.key nowNs := by
    intro other hoth part hpart
    rw [h.config]
    exact htimely other hoth _ (h.get hfits hoth hpart).2
  have hshr := r.shrinks_prepared epoch nowNs
  have hspares := h.spares hfits hs hmiss hpkt (htimely' s hs)
  obtain ⟨outcome, _, r', hingest, hothers, hstowed, hyields, hkeeps⟩ :=
    hwait.ingest_own hfamily hs hpkt (fun other _ _ _ => hspares other.key)
      (fun other hoth _ => htimely' other hoth) hmiss fun hnew => by
        rw [(hshr.sound h.settled.toSound).stored]
        exact hfits.entry (fun _ hent => h.stands hshr hent) hs hmem hnew
  have hmap : (deliveries ++ [(packetBytes pkt, nowNs)]).map fst =
      deliveries.map fst ++ [packetBytes pkt] := by
    rw [map_append, map_singleton]
  have hwait' := hkeeps (fun s => ¬ s.IsComplete (deliveries.map fst ++ [packetBytes pkt]))
    (fun other hstill hdone => hstill fun datagram hmem =>
      mem_append_left _ (hdone datagram hmem))
    fun hdone hstill => hstill hdone
  refine ⟨outcome, r', hingest, ⟨hwait'.settled, hwait'.config, hwait'.epoch, ?_, ?_⟩,
    hmap ▸ hyields⟩
  · intro entry hent
    rw [hmap]
    by_cases hkey : entry.1 = s.key
    · obtain ⟨hholds, hfirst, hstill⟩ :=
        hstowed.held entry.2 (get?_eq_some.2 (hkey ▸ hent))
      refine ⟨s, hs, hkey.symm, hholds, ?_, hmap ▸ hstill⟩
      rw [hfirst]
      cases hget : r.frames.get? s.key with
      | some part => exact firstSeen_snoc_of_seen (h.get hfits hs hget).2.seen
      | none =>
        refine firstSeen_snoc_of_none (firstSeen_eq_none.2 fun datagram hdgram hdeliv => ?_) hmem
        obtain ⟨_, hpart⟩ := hwait.present s hs hmiss datagram hdgram hdeliv
        rw [hget] at hpart
        cases hpart
    · -- an entry of another frame is as it was
      have hold := hothers entry ((hstowed.others entry hkey).1 hent) hkey
      obtain ⟨s', hs', hkey', hholds, hunder⟩ := h.held entry hold
      have hoth : packetBytes pkt ∉ s'.packets := fun hmem' =>
        hkey (hkey'.symm.trans (congrArg key (hfamily.eq_of_mem hs' hs hmem' hmem)))
      refine ⟨s', hs', hkey', hholds.append hoth, ?_, ?_⟩
      · rw [firstSeen_snoc_of_not_mem hoth]
        exact hunder.seen
      · rw [isComplete_snoc_of_not_mem hoth]
        exact hunder.missing
  · intro s' hs' first hunder
    obtain ⟨datagram, hdgram, hdeliv⟩ :
        ∃ datagram ∈ s'.packets, datagram ∈ deliveries.map fst ++ [packetBytes pkt] := by
      by_contra hnone
      push Not at hnone
      rw [← hmap] at hnone
      exact nomatch hunder.seen.symm.trans (firstSeen_eq_none.2 hnone)
    exact hwait'.present s' hs' (hmap ▸ hunder.missing) datagram hdgram hdeliv

end

/-! ## Every schedule -/

/-- The frame that a step hands out. -/
def completedFrame (st : Step Reassembler ReassemblerEvent) : Option ReassembledFrame :=
  match st.event with
  | .ingest _ _ (.ok (.complete frame)) => some frame
  | _ => none

/-- The step hands out the frame with the key. -/
def completes (key : FrameKey) (st : Step Reassembler ReassemblerEvent) : Bool :=
  match completedFrame st with
  | some frame => decide (FrameKey.fromHeader frame.header = key)
  | none => false

/-- The calls that deliver the packets. -/
def deliveryCalls (deliveries : List (List UInt8 × UInt64)) : List ReassemblerCall :=
  deliveries.map fun delivery => .ingest delivery.1 delivery.2

/-- What the steps of a run of deliveries have done. -/
structure Delivers (shipments : List Shipment) (deliveries : List (List UInt8 × UInt64))
    (steps : List (Step Reassembler ReassemblerEvent)) : Prop where
  /-- Every call succeeds. -/
  succeeds : ∀ st ∈ steps, ∃ datagram nowNs outcome, st.event = .ingest datagram nowNs (.ok outcome)
  /-- A frame that comes out is one of the frames, with its bytes and metadata. -/
  faithful : ∀ st ∈ steps, ∀ frame, completedFrame st = some frame →
    ∃ s ∈ shipments, Describes s.spec s.frame frame.header ∧ frame.bytes = s.frame
  /-- A frame comes out once when it is complete, and not before. -/
  once : ∀ s ∈ shipments, steps.countP (completes s.key) =
    if s.IsComplete (deliveries.map Prod.fst) then 1 else 0

theorem orderly_nil : Orderly config shipments [] := by
  intro earlier delivery later heq
  exact absurd heq.symm (append_ne_nil_of_right_ne_nil _ (cons_ne_nil _ _))

variable {delivery : List UInt8 × UInt64}

theorem orderly_snoc :
    Orderly config shipments (deliveries ++ [delivery]) ↔
      Orderly config shipments deliveries ∧ MayFollow config shipments deliveries delivery := by
  constructor
  · intro h
    refine ⟨fun earlier next later heq => ?_, h deliveries delivery [] rfl⟩
    refine h earlier next (later ++ [delivery]) ?_
    rw [heq, append_assoc, cons_append]
  · intro ⟨h, hlast⟩ earlier next later heq
    rcases eq_nil_or_concat' later with rfl | ⟨front, _, rfl⟩
    · obtain ⟨rfl, hnext⟩ := append_inj' heq rfl
      cases hnext
      exact hlast
    · refine h earlier next front ?_
      rw [← cons_append, ← append_assoc] at heq
      exact (append_inj' heq rfl).1

theorem tracks_new (valid : config.validate = .ok ()) (hep : 1 ≤ epoch) :
    Tracks config shipments epoch [] (.ofValid config valid) where
  settled := settled_ofValid valid
  config := rfl
  epoch := hep
  held _ hent := nomatch hent
  present _ _ _ hunder := nomatch hunder.seen

include hfits hs hmem hmiss in
/-- The steps after one more delivery. -/
theorem Delivers.snoc {steps : List (Step Reassembler ReassemblerEvent)}
    {st : Step Reassembler ReassemblerEvent} {outcome : IngestOutcome}
    (h : Delivers shipments deliveries steps)
    (hev : st.event = .ingest datagram nowNs (.ok outcome))
    (hyields : s.Yields ((deliveries ++ [(datagram, nowNs)]).map fst) outcome) :
    Delivers shipments (deliveries ++ [(datagram, nowNs)]) (steps ++ [st]) := by
  -- Only a frame of `s` can come out of this step.
  have hcompl {frame : ReassembledFrame} (hfr : completedFrame st = some frame) :
      s.IsComplete ((deliveries ++ [(datagram, nowNs)]).map fst) ∧
        Describes s.spec s.frame frame.header ∧ frame.bytes = s.frame := by
    have houtcome : outcome = .complete frame := by
      rw [completedFrame, hev] at hfr
      cases outcome with
      | complete frame' => rw [Option.some.inj hfr]
      | pending | duplicate => cases hfr
    unfold Shipment.Yields at hyields
    split at hyields
    · next hdone =>
      obtain ⟨_, hfr', hspec⟩ := hyields
      rw [houtcome, IngestOutcome.complete.injEq] at hfr'
      subst hfr'
      exact ⟨hdone, hspec⟩
    · exact absurd houtcome (hyields frame)
  refine ⟨?_, ?_, ?_⟩
  · refine forall_mem_append.2 ⟨h.succeeds, forall_mem_singleton.2 ?_⟩
    exact ⟨datagram, nowNs, outcome, hev⟩
  · refine forall_mem_append.2 ⟨h.faithful, forall_mem_singleton.2 ?_⟩
    intro frame hfr
    exact ⟨s, hs, (hcompl hfr).2⟩
  · intro s' hs'
    rw [countP_append, h.once s' hs', countP_singleton]
    by_cases hsame : s' = s
    · subst hsame
      rw [if_neg hmiss]
      by_cases hdone : s'.IsComplete ((deliveries ++ [(datagram, nowNs)]).map fst)
      · unfold Shipment.Yields at hyields
        rw [if_pos hdone] at hyields
        obtain ⟨frame, rfl, hhdr, _⟩ := hyields
        have hstep : completes s'.key st = true := by
          rw [completes, completedFrame, hev]
          exact decide_eq_true (fromHeader_eq_key hhdr)
        rw [if_pos hstep, if_pos hdone]
      · have hstep : completes s'.key st = false := by
          cases hfr : completedFrame st with
          | none => rw [completes, hfr]
          | some frame => exact absurd (hcompl hfr).1 hdone
        rw [if_neg hdone, hstep]
        rfl
    · have hoth : datagram ∉ s'.packets := fun hmem' =>
        hsame (hfits.family.eq_of_mem hs' hs hmem' hmem)
      have hstep : completes s'.key st = false := by
        cases hfr : completedFrame st with
        | none => rw [completes, hfr]
        | some frame =>
          rw [completes, hfr]
          refine decide_eq_false fun hkey => hsame (hfits.family.eq_of_key s' hs' s hs ?_)
          rw [← hkey, fromHeader_eq_key (hcompl hfr).2.1]
      rw [hstep]
      exact if_congr (isComplete_snoc_of_not_mem hoth).symm rfl rfl

include hfits in
theorem delivers_run (hep : 1 ≤ epoch) (valid : config.validate = .ok ())
    (horderly : Orderly config shipments deliveries) :
    Tracks config shipments epoch deliveries
        (reassemblerMachine.run (.ofValid config valid) (deliveryCalls deliveries)) ∧
      Delivers shipments deliveries
        (reassemblerMachine.trace (.ofValid config valid) (deliveryCalls deliveries)) := by
  induction deliveries using reverseRecOn with
  | nil =>
    refine ⟨tracks_new valid hep, ⟨?_, ?_, fun s _ => (if_neg s.not_isComplete_nil).symm⟩⟩
    all_goals exact fun _ hst => nomatch hst
  | append_singleton deliveries delivery ih =>
    obtain ⟨datagram, nowNs⟩ := delivery
    obtain ⟨horderly, hfollow⟩ := orderly_snoc.1 horderly
    obtain ⟨htracks, hdelivers⟩ := ih horderly
    obtain ⟨s, hs, hmem, hmiss⟩ := hfollow.sent
    obtain ⟨outcome, r', hingest, htracks', hyields⟩ :=
      htracks.ingest hfits hs hmem hmiss hfollow.timely
    have hcalls : deliveryCalls (deliveries ++ [(datagram, nowNs)]) =
        deliveryCalls deliveries ++ [.ingest datagram nowNs] := map_append
    rw [hcalls, run_snoc, trace_snoc]
    have hstep : reassemblerMachine.step
        (reassemblerMachine.run (.ofValid config valid) (deliveryCalls deliveries))
        (.ingest datagram nowNs) = (.ingest datagram nowNs (.ok outcome), r') := by
      show record _ _ = _
      rw [hingest, record_mk]
    refine ⟨?_, hdelivers.snoc hfits hs hmem hmiss ?_ hyields⟩
    · rw [hstep]
      exact htracks'
    · rw [stepAt_event, hstep]

/-- Every schedule of the packets of a family that fits delivers every frame once,
with its bytes and metadata, and leaves the reassembler empty. -/
theorem every_frame_arrives {r : Reassembler} (hnew : Reassembler.new config = .ok r)
    (hfits : Fits config shipments epoch) (hepoch : 1 ≤ epoch)
    (horderly : Orderly config shipments deliveries)
    (hevery : ∀ s ∈ shipments, s.IsComplete (deliveries.map Prod.fst)) :
    (∀ st ∈ reassemblerMachine.trace r (deliveryCalls deliveries), ∃ datagram nowNs outcome,
        st.event = .ingest datagram nowNs (.ok outcome)) ∧
      (∀ st ∈ reassemblerMachine.trace r (deliveryCalls deliveries), ∀ frame,
        completedFrame st = some frame →
          ∃ s ∈ shipments, Describes s.spec s.frame frame.header ∧ frame.bytes = s.frame) ∧
      (∀ s ∈ shipments,
        (reassemblerMachine.trace r (deliveryCalls deliveries)).countP (completes s.key) = 1) ∧
      (reassemblerMachine.run r (deliveryCalls deliveries)).frames.entries = [] ∧
      (reassemblerMachine.run r (deliveryCalls deliveries)).bufferedBytes = 0 ∧
      (reassemblerMachine.run r (deliveryCalls deliveries)).reservedBytes = 0 ∧
      (reassemblerMachine.run r (deliveryCalls deliveries)).fragmentEntries = 0 := by
  obtain ⟨valid, rfl⟩ := new_eq_ok hnew
  obtain ⟨htracks, hdelivers⟩ := delivers_run hfits hepoch valid horderly
  have hempty : (reassemblerMachine.run (.ofValid config valid)
      (deliveryCalls deliveries)).frames.entries = [] := by
    refine eq_nil_iff_forall_not_mem.2 fun entry hent => ?_
    obtain ⟨s, hs, _, _, hunder⟩ := htracks.held entry hent
    exact hunder.missing (hevery s hs)
  have hsnd := htracks.settled.toSound
  refine ⟨hdelivers.succeeds, hdelivers.faithful, ?_, hempty, ?_, ?_, ?_⟩
  · intro s hs
    rw [hdelivers.once s hs, if_pos (hevery s hs)]
  · rw [hsnd.buffered, total, hempty]
    rfl
  · rw [hsnd.reserved, total, hempty]
    rfl
  · rw [hsnd.stored, total, hempty]
    rfl

/-- A frame of three bytes of the given codec epoch. -/
def sampleSpec (epoch : UInt32) : FragmentSpec :=
  { kind := .video, flags := MediaFlags.keyframe, streamId := 1, codecEpoch := epoch
    frameId := 7, dependencyFrameId := none }

/-- The packets of the frame, two bytes in each. -/
def samplePackets (epoch : UInt8) : List (List UInt8) :=
  [[76, 68, 83, 75, 2, 1, 0, 1, 0, 0, 0, 1, 0, 0, 0, epoch, 0, 0, 0, 0, 0, 0, 0, 7, 255, 255, 255,
      255, 255, 255, 255, 255, 0, 0, 0, 3, 0, 0, 0, 0, 0, 2, 0, 0, 11, 12],
    [76, 68, 83, 75, 2, 1, 0, 1, 0, 0, 0, 1, 0, 0, 0, epoch, 0, 0, 0, 0, 0, 0, 0, 7, 255, 255, 255,
      255, 255, 255, 255, 255, 0, 0, 0, 3, 0, 0, 0, 2, 0, 1, 0, 0, 13]]

def sampleShipment : Shipment :=
  { spec := sampleSpec 1
    frame := [11, 12, 13]
    budget := 46
    packets := samplePackets 1
    fragmented := by decide }

/-- The second packet, its duplicate and the first packet. -/
def sampleDeliveries : List (List UInt8 × UInt64) :=
  [((samplePackets 1).getD 1 [], 5), ((samplePackets 1).getD 1 [], 6),
    ((samplePackets 1).getD 0 [], 9)]

/-- A family of one frame fits if the frame does. -/
theorem fits_singleton (valid : config.validate = .ok ())
    (hparity : s.spec.flags &&& MediaFlags.parity = 0)
    (hbytes : s.frame.length ≤ config.maxBufferedBytes.toNat)
    (hbudget : s.budget ≤ config.maxDatagramBytes.toNat)
    (hfrags : s.packets.length ≤ config.maxFragmentsPerFrame.toNat)
    (hstor : s.packets.length ≤ config.maxFragmentEntries.toNat) :
    Fits config [s] s.spec.codecEpoch where
  inflight := (limits_of_validate valid).1
  keys := pairwise_singleton _ _
  epochs := forall_mem_singleton.2 rfl
  parity := forall_mem_singleton.2 hparity
  bytes := hbytes
  budget := forall_mem_singleton.2 hbudget
  fragments := forall_mem_singleton.2 hfrags
  stored := hstor

theorem mayFollow_singleton (hmem : delivery.1 ∈ s.packets)
    (hmiss : ¬ s.IsComplete (deliveries.map fst))
    (hage : (s.firstSeen deliveries).all (fun first =>
      decide (saturatingSub delivery.2 first < config.maxFrameAgeNs)) = true) :
    MayFollow config [s] deliveries delivery where
  sent := ⟨s, mem_singleton.2 rfl, hmem, hmiss⟩
  timely := forall_mem_singleton.2 fun first hunder => by
    rw [hunder.seen, all_some, decide_eq_true_iff] at hage
    exact hage

theorem sampleDeliveries_orderly : Orderly .default [sampleShipment] sampleDeliveries := by
  refine (@orderly_snoc _ _ [_, _] _).2 ⟨(@orderly_snoc _ _ [_] _).2
    ⟨(@orderly_snoc _ _ [] _).2 ⟨orderly_nil, ?_⟩, ?_⟩, ?_⟩
  all_goals exact mayFollow_singleton (by decide) (by decide) (by decide)

/-- Two packets in the wrong order with a duplicate between them. -/
theorem sample_frame_arrives :
    (reassemblerMachine.trace (.ofValid .default validate_default)
        (deliveryCalls sampleDeliveries)).countP (completes sampleShipment.key) = 1 ∧
      (reassemblerMachine.run (.ofValid .default validate_default)
        (deliveryCalls sampleDeliveries)).frames.entries = [] := by
  have hnew : new .default =
      .ok (.ofValid .default validate_default) :=
    dif_pos validate_default
  have hfits : Fits .default [sampleShipment] 1 :=
    fits_singleton validate_default (by decide) (by decide) (by decide)
      (by decide) (by decide)
  have harrives := every_frame_arrives hnew hfits (by decide) sampleDeliveries_orderly
    (forall_mem_singleton.2 (by decide))
  exact ⟨harrives.2.2.1 sampleShipment (mem_singleton.2 rfl), harrives.2.2.2.1⟩

/-- The frame with codec epoch 0. -/
def epochZeroShipment : Shipment :=
  { spec := sampleSpec 0
    frame := [11, 12, 13]
    budget := 46
    packets := samplePackets 0
    fragmented := by decide }

/-- Both packets of the frame in order. -/
def epochZeroDeliveries : List (List UInt8 × UInt64) :=
  [((samplePackets 0).getD 0 [], 5), ((samplePackets 0).getD 1 [], 6)]

theorem epochZeroDeliveries_orderly :
    Orderly .default [epochZeroShipment] epochZeroDeliveries := by
  refine (@orderly_snoc _ _ [_] _).2 ⟨(@orderly_snoc _ _ [] _).2 ⟨orderly_nil, ?_⟩, ?_⟩
  all_goals exact mayFollow_singleton (by decide) (by decide) (by decide)

/-- A fresh reassembler is at codec epoch 1 and refuses the packets of a frame
with codec epoch 0, which fits and is delivered as every other frame. -/
theorem epoch_zero_frame_refused :
    Fits .default [epochZeroShipment] 0 ∧
      Orderly .default [epochZeroShipment] epochZeroDeliveries ∧
      epochZeroShipment.IsComplete (epochZeroDeliveries.map Prod.fst) ∧
      ∃ st ∈ reassemblerMachine.trace (.ofValid .default validate_default)
          (deliveryCalls epochZeroDeliveries),
        st.event = .ingest ((samplePackets 0).getD 0 []) 5 (.error (.staleCodecEpoch 0 1)) := by
  have hfits : Fits .default [epochZeroShipment] 0 :=
    fits_singleton validate_default (by decide) (by decide) (by decide)
      (by decide) (by decide)
  have hres : ((ofValid .default validate_default).ingest
      ((samplePackets 0).getD 0 []) 5).1 = .error (.staleCodecEpoch 0 1) := by decide
  refine ⟨hfits, epochZeroDeliveries_orderly, by decide, _, mem_cons_self .., ?_⟩
  exact congrArg (ReassemblerEvent.ingest ((samplePackets 0).getD 0 []) 5) hres

end

/-! ## Datagrams that are rejected -/

/-- The datagram belongs to the frame. -/
def Names (datagram : List UInt8) (key : FrameKey) : Prop :=
  ∃ packet, MediaPacket.decode datagram = .ok packet ∧ key = .fromHeader packet.header

namespace Reassembler

/-- The datagram passes the checks before the codec epoch, and its epoch is a newer one. -/
def Renews (r : Reassembler) (datagram : List UInt8) : Prop :=
  datagram.length ≤ r.config.maxDatagramBytes.toNat ∧
    ∃ packet, MediaPacket.decode datagram = .ok packet ∧
      packet.header.flags &&& MediaFlags.parity = 0 ∧
      r.activeCodecEpoch < packet.header.codecEpoch

/-- The codec epoch is the same after a call, and so is every frame that the datagram does not
name and that was not older than a frame may be. -/
def HarmsOwnFrame (r after : Reassembler) (datagram : List UInt8) (nowNs : UInt64) : Prop :=
  after.activeCodecEpoch = r.activeCodecEpoch ∧
    ∀ key part, r.frames.get? key = some part → ¬Names datagram key →
      saturatingSub nowNs part.firstSeenNs ≤ r.config.maxFrameAgeNs →
        after.frames.get? key = some part

variable {r : Reassembler} {packet : MediaPacket} {nowNs : UInt64} {key : FrameKey}

/-- A packet that is neither parity nor stale leaves its codec epoch behind, whatever comes of
it. -/
theorem activeCodecEpoch_ingestPacket (hparity : packet.header.flags &&& MediaFlags.parity = 0)
    (hstale : ¬packet.header.codecEpoch < r.activeCodecEpoch) :
    (r.ingestPacket packet nowNs).2.activeCodecEpoch =
      (r.enterEpoch packet.header.codecEpoch).activeCodecEpoch := by
  unfold ingestPacket
  dsimp only
  rw [if_neg (not_not.2 hparity), if_neg hstale]
  split_ifs
  · rfl
  have hadmit := (r.enterEpoch packet.header.codecEpoch).activeCodecEpoch_admitFrame
    packet.header nowNs
  split
  · next heq => rwa [heq] at hadmit
  next heq =>
  rw [heq] at hadmit
  split
  · exact hadmit
  · exact activeCodecEpoch_storeFragment.trans hadmit

/-- An eviction leaves an entry free for the fragment, and a new frame refuses nothing else. -/
theorem isOk_ingestPacket_of_evicts (h : r.Settled) (hvalid : packet.header.Valid)
    (hlen : packet.payload.length = packet.header.fragmentLen.toNat)
    (hparity : packet.header.flags &&& MediaFlags.parity = 0)
    (hepoch : packet.header.codecEpoch = r.activeCodecEpoch)
    (hbudget : packet.header.frameLen.toNat ≤ r.config.maxBufferedBytes.toNat)
    (hnone : r.frames.get? (.fromHeader packet.header) = none)
    (hfull : r.isFull packet.header.frameLen.toNat = true) :
    (r.ingestPacket packet nowNs).1.isOk = true := by
  have hentered : r.enterEpoch packet.header.codecEpoch = r :=
    if_neg (hepoch ▸ UInt32.lt_irrefl _)
  obtain ⟨q, hmake, -⟩ := makeRoom_eq_ok h.toSound hbudget (lt_succ_self _)
  have hentries := fragmentEntries_makeRoom_lt r.frames.length h hfull hbudget
  rw [hmake] at hentries
  have hadmit : r.admitFrame packet.header nowNs = (.ok (), { q with
      reservedBytes := usizeAdd q.reservedBytes packet.header.frameLen.toNat
      frames := q.frames.insert (.fromHeader packet.header) (.new packet.header nowNs) }) := by
    unfold admitFrame
    dsimp only
    rw [hnone, makeRoomForNewFrame, hmake]
  unfold ingestPacket
  dsimp only
  rw [if_neg (not_not.2 hparity), hepoch, if_neg (UInt32.lt_irrefl _), ← hepoch, hentered,
    if_neg (Nat.not_lt.2 hbudget), hadmit]
  dsimp only
  rw [get?_insert_self]
  rcases admitFrame_cases h.toSound hvalid hbudget with ⟨_, hrefused, -⟩ | ⟨_, _, hok, hadmitted⟩
  · cases hadmit.symm.trans hrefused
  cases hadmit.symm.trans hok
  refine storeFragment_new hadmitted.sound get?_insert_self ?_ ?_ ?_
  · rw [← length_pos_iff, hlen]
    exact hvalid.fragment.1
  · rw [hlen]
    exact hvalid.inside
  · have hconfig : q.config = r.config := hadmitted.config
    show q.fragmentEntries < q.config.maxFragmentEntries.toNat
    rw [hconfig]
    exact Nat.lt_of_lt_of_le hentries h.storedLimit

/-- A packet that is rejected and does not enter a newer epoch leaves the frames alone that it does
not name. -/
theorem get?_ingestPacket_of_error (h : r.Settled) (hvalid : packet.header.Valid)
    (hlen : packet.payload.length = packet.header.fragmentLen.toNat)
    (hold : packet.header.flags &&& MediaFlags.parity = 0 →
      ¬r.activeCodecEpoch < packet.header.codecEpoch)
    (herror : (r.ingestPacket packet nowNs).1.isOk = false)
    (hne : key ≠ .fromHeader packet.header) :
    (r.ingestPacket packet nowNs).2.frames.get? key = r.frames.get? key := by
  have hevicts := @isOk_ingestPacket_of_evicts r packet nowNs h hvalid hlen
  rw [herror] at hevicts
  have hentered (hparity : packet.header.flags &&& MediaFlags.parity = 0) :
      r.enterEpoch packet.header.codecEpoch = r :=
    if_neg (hold hparity)
  unfold ingestPacket
  dsimp only
  split_ifs with hparity hstale hbudget
  iterate 2 rfl
  · rw [hentered (not_not.1 hparity)]
  rw [hentered (not_not.1 hparity)] at hbudget ⊢
  have hspares : r.Spares packet.header key := by
    by_contra hnot
    unfold Spares at hnot
    rw [not_or, not_or, not_not, Bool.not_eq_false] at hnot
    exact absurd (hevicts (not_not.1 hparity)
      (UInt32.le_antisymm (UInt32.not_lt.1 (hold (not_not.1 hparity))) (UInt32.not_lt.1 hstale))
      (Nat.le_of_not_lt hbudget) hnot.1 hnot.2.1) Bool.false_ne_true
  have hget := get?_admitFrame hne hspares nowNs
  split
  · next heq => rwa [heq] at hget
  next heq =>
  rw [heq] at hget
  split
  · exact hget
  · exact (get?_storeFragment hne).trans hget

variable {datagram : List UInt8}

theorem activeCodecEpoch_ingest_of_renews (h : r.Renews datagram) :
    (r.ingest datagram nowNs).2.activeCodecEpoch ≠ r.activeCodecEpoch := by
  obtain ⟨hshort, packet, hdec, hparity, hepoch⟩ := h
  rw [← r.activeCodecEpoch_expire nowNs] at hepoch ⊢
  rw [← (r.shrinks_expire nowNs).config] at hshort
  unfold ingest
  dsimp only
  rw [if_neg (Nat.not_lt.2 hshort), hdec]
  dsimp only
  rw [activeCodecEpoch_ingestPacket hparity (UInt32.lt_asymm hepoch), enterEpoch, if_pos hepoch]
  exact (UInt32.ne_of_lt hepoch).symm

/-- A rejected datagram that does not enter a newer epoch leaves the epoch as it is, and the frames
that it does not name as `expire` leaves them. -/
theorem ingest_of_error (h : r.Settled) (hold : ¬r.Renews datagram)
    (herror : (r.ingest datagram nowNs).1.isOk = false) :
    (r.ingest datagram nowNs).2.activeCodecEpoch = r.activeCodecEpoch ∧
      ∀ key, ¬Names datagram key →
        (r.ingest datagram nowNs).2.frames.get? key = (r.expire nowNs).2.frames.get? key := by
  have hexpire := r.shrinks_expire nowNs
  have hsame := r.activeCodecEpoch_expire nowNs
  unfold ingest at herror ⊢
  dsimp only at herror ⊢
  split_ifs at herror ⊢ with hlong
  · exact ⟨hsame, fun _ _ => rfl⟩
  split at herror
  · exact ⟨hsame, fun _ _ => rfl⟩
  next packet hdec =>
  obtain ⟨hvalid, hlen⟩ := MediaPacket.decode_spec hdec
  have hepoch : packet.header.flags &&& MediaFlags.parity = 0 →
      ¬(r.expire nowNs).2.activeCodecEpoch < packet.header.codecEpoch := by
    intro hparity hnewer
    rw [hsame] at hnewer
    rw [hexpire.config] at hlong
    exact hold ⟨Nat.le_of_not_lt hlong, packet, hdec, hparity, hnewer⟩
  refine ⟨?_, fun key hne => ?_⟩
  · by_cases hreached : packet.header.flags &&& MediaFlags.parity = 0 ∧
        ¬packet.header.codecEpoch < (r.expire nowNs).2.activeCodecEpoch
    · rw [activeCodecEpoch_ingestPacket hreached.1 hreached.2, enterEpoch,
        if_neg (hepoch hreached.1), hsame]
    · unfold ingestPacket
      dsimp only
      split_ifs with hparity hstale
      iterate 2 exact hsame
      all_goals exact absurd ⟨not_not.1 hparity, hstale⟩ hreached
  · exact get?_ingestPacket_of_error (h.shrinks hexpire) hvalid hlen hepoch herror
      fun heq => hne ⟨packet, hdec, heq⟩

theorem settled_run {config : ReassemblyConfig} (hnew : new config = .ok r)
    (calls : List ReassemblerCall) : (reassemblerMachine.run r calls).Settled := by
  obtain ⟨valid, rfl⟩ := new_eq_ok hnew
  exact reassemblerMachine.run_induction (settled_ofValid valid)
    (fun r call hr => (settled_stepAt hr call).1) calls

end Reassembler

/-- In every reachable state a datagram that is rejected harms its own frame only, if and only if
it does not enter a newer codec epoch and no other frame is exactly as old as a frame may be. -/
theorem rejected_datagram_harms_own_frame_iff {config : ReassemblyConfig} {r₀ : Reassembler}
    (hnew : new config = .ok r₀) (calls : List ReassemblerCall) (datagram : List UInt8)
    (nowNs : UInt64) {error : TransportError}
    (herror : ((reassemblerMachine.run r₀ calls).ingest datagram nowNs).1 = .error error) :
    let r := reassemblerMachine.run r₀ calls
    r.HarmsOwnFrame (r.ingest datagram nowNs).2 datagram nowNs ↔
      ¬r.Renews datagram ∧ ∀ key part, r.frames.get? key = some part → ¬Names datagram key →
        saturatingSub nowNs part.firstSeenNs ≠ r.config.maxFrameAgeNs := by
  intro r
  have hsettled : r.Settled := settled_run hnew calls
  have hok : (r.ingest datagram nowNs).1.isOk = false := by
    rw [herror]
    rfl
  constructor
  · rintro ⟨hepoch, hframes⟩
    have hold : ¬r.Renews datagram := fun h => activeCodecEpoch_ingest_of_renews h hepoch
    refine ⟨hold, fun key part hget hne hage => ?_⟩
    have hkept := hframes key part hget hne (UInt64.le_of_eq hage)
    rw [(ingest_of_error hsettled hold hok).2 key hne,
      get?_expire_of_old hget (UInt64.le_of_eq hage.symm)] at hkept
    cases hkept
  · rintro ⟨hold, hages⟩
    have hleft := ingest_of_error hsettled hold hok
    refine ⟨hleft.1, fun key part hget hne hage => ?_⟩
    rw [hleft.2 key hne, get?_expire ?_, hget]
    intro other hother
    cases hget.symm.trans hother
    exact UInt64.lt_of_le_of_ne hage (hages key part hget hne)

/-- A reassembler that holds the first packet of the sample frame. -/
def sampleWaiting (config : ReassemblyConfig) (valid : config.validate = .ok ()) : Reassembler :=
  reassemblerMachine.run (ofValid config valid) [.ingest ((samplePackets 1).getD 0 []) 5]

/-- A packet of an older epoch comes while the reassembler holds a frame. -/
theorem sample_datagram_harms_own_frame :
    let r := sampleWaiting .default validate_default
    let call := r.ingest ((samplePackets 0).getD 0 []) 6
    (r.frames.get? sampleShipment.key).isSome = true ∧ call.1 = .error (.staleCodecEpoch 0 1) ∧
      r.HarmsOwnFrame call.2 ((samplePackets 0).getD 0 []) 6 := by
  refine ⟨by decide, by decide,
    (rejected_datagram_harms_own_frame_iff (dif_pos validate_default)
      [.ingest ((samplePackets 1).getD 0 []) 5] ((samplePackets 0).getD 0 []) 6
      (show _ = Except.error (TransportError.staleCodecEpoch 0 1) by decide)).2 ⟨?_, ?_⟩⟩
  · rintro ⟨-, packet, hdec, -, hepoch⟩
    cases hdec
    exact absurd hepoch (by decide)
  · intro key part hget _
    have hall : ∀ entry ∈ (sampleWaiting .default validate_default).frames.entries,
        saturatingSub 6 entry.2.firstSeenNs ≠
          (sampleWaiting .default validate_default).config.maxFrameAgeNs := by
      decide
    exact hall _ (get?_eq_some.1 hget)

/-- The first packet of a longer frame of the next epoch is rejected, and the reassembler has
moved to that epoch and dropped the frame it held. -/
theorem rejected_datagram_drops_a_frame :
    let r := sampleWaiting { default with maxBufferedBytes := 3 } (by decide)
    let after := r.ingest (((samplePackets 2).getD 0 []).set 35 4) 6
    after.1 = .error (.frameExceedsReassemblyBudget 4 3) ∧
      r.activeCodecEpoch = 1 ∧ after.2.activeCodecEpoch = 2 ∧
      (r.frames.get? sampleShipment.key).isSome = true ∧ after.2.frames.entries = [] := by
  decide +kernel

end LatencyDesk.Transport
