import LatencyDesk.Transport.Frame

/-!
# The accounts of the reassembler

The reassembler keeps three counters beside its frames, and updates them with
saturating arithmetic.  `Sound` says that they are the sums over the frames and
within the limits of the configuration.  Then no update saturates.

Most of what `ingest` does only takes frames out: a conflict, an expired frame,
an older codec epoch, an evicted frame.  `Shrinks` is what these have in common,
and `makeRoom_eq_ok` says that evicting makes room for a frame within the budget
before it runs out of frames.
-/

namespace LatencyDesk.Transport

open Lib Protocol List OrderedMap ReassemblyConfig Nat

/-- What the checks of a configuration leave for the accounts. -/
theorem ReassemblyConfig.limits_of_validate {config : ReassemblyConfig}
    (h : config.validate = .ok ()) :
    0 < config.maxInflightFrames.toNat ∧ config.maxBufferedBytes.toNat ≤ 512 * 1024 * 1024 := by
  unfold validate at h
  split_ifs at h with hinv
  simp only [not_or, UInt64.not_lt] at hinv
  constructor
  · refine pos_of_ne_zero fun hzero => hinv.1 ?_
    exact UInt64.toNat_inj.1 hzero
  · exact UInt64.le_iff_toNat_le.1 hinv.2.2.2.2.2.2.1

/-- A consistent frame with no more fragments than a frame may have. -/
structure PartialFrame.Open (part : PartialFrame) (maxFragments : Nat) : Prop
    extends part.Consistent where
  limit : part.fragments.length ≤ maxFragments

namespace Reassembler

/-- The counters are the sums over the frames, and the limits hold. -/
structure Sound (r : Reassembler) : Prop where
  buffered : r.bufferedBytes = r.frames.total fun _ part => part.receivedBytes
  reserved : r.reservedBytes = r.frames.total fun _ part => part.declared
  stored : r.fragmentEntries = r.frames.total fun _ part => part.fragments.length
  inflightLimit : r.frames.length ≤ r.config.maxInflightFrames.toNat
  reservedLimit : r.reservedBytes ≤ r.config.maxBufferedBytes.toNat
  storedLimit : r.fragmentEntries ≤ r.config.maxFragmentEntries.toNat
  frame : ∀ entry ∈ r.frames.entries, entry.2.Open r.config.maxFragmentsPerFrame.toNat

/-- A change of the reassembler that adds no frame and changes none. -/
structure Shrinks (r r' : Reassembler) : Prop where
  config : r'.config = r.config
  frames : ∀ entry ∈ r'.frames.entries, entry ∈ r.frames.entries
  sound : r.Sound → r'.Sound

variable {r r' r'' : Reassembler} {key : FrameKey}

theorem Shrinks.refl (r : Reassembler) : r.Shrinks r :=
  ⟨rfl, fun _ hent => hent, fun hsnd => hsnd⟩

theorem Shrinks.trans (h : r.Shrinks r') (h' : r'.Shrinks r'') : r.Shrinks r'' :=
  ⟨h'.config.trans h.config, fun entry hent => h.frames entry (h'.frames entry hent),
    fun hsnd => h'.sound (h.sound hsnd)⟩

/-- The counters of `ReassemblyStats` take no part in the accounts. -/
theorem shrinks_stats (r : Reassembler) (stats : ReassemblyStats) :
    r.Shrinks { r with stats := stats } :=
  ⟨rfl, fun _ hent => hent, fun hsnd => { hsnd with }⟩

/-- The codec epoch takes no part in the accounts. -/
theorem shrinks_epoch {epoch : UInt32} {stats : ReassemblyStats} :
    r.Shrinks { r with activeCodecEpoch := epoch, stats := stats } :=
  ⟨rfl, fun _ hent => hent, fun hsnd => { hsnd with }⟩

theorem Shrinks.get?_eq_none (h : r.Shrinks r')
    (hget : r.frames.get? key = none) : r'.frames.get? key = none := by
  rw [OrderedMap.get?_eq_none] at hget ⊢
  exact fun part hmem => hget part (h.frames _ hmem)

/-! ## Removing frames -/

section

variable (r : Reassembler) (key : FrameKey)

@[simp] theorem frames_removeFrame :
    (r.removeFrame key).frames = r.frames.erase key := by
  unfold removeFrame
  split
  · next hget => exact (erase_of_get?_eq_none hget).symm
  rfl

@[simp] theorem config_removeFrame :
    (r.removeFrame key).config = r.config := by
  unfold removeFrame
  cases r.frames.get? key <;> rfl

@[simp] theorem activeCodecEpoch_removeFrame :
    (r.removeFrame key).activeCodecEpoch = r.activeCodecEpoch := by
  unfold removeFrame
  cases r.frames.get? key <;> rfl

end

theorem Sound.removeFrame (h : r.Sound) (key : FrameKey) : (r.removeFrame key).Sound := by
  unfold Reassembler.removeFrame
  split
  · exact h
  next removed hget =>
  have hbuffered := r.frames.total_erase_add (fun _ part => part.receivedBytes) hget
  have hresv := r.frames.total_erase_add (fun _ part => part.declared) hget
  have hstor := r.frames.total_erase_add (fun _ part => part.fragments.length) hget
  have hlen : (r.frames.erase key).length ≤ r.frames.length := by
    rw [length_eq_total, length_eq_total]
    exact r.frames.total_retain_le _ _
  refine ⟨?_, ?_, ?_, ?_, ?_, ?_, ?_⟩
  · show r.bufferedBytes - removed.receivedBytes = _
    rw [h.buffered, ← hbuffered, Nat.add_sub_cancel]
  · show r.reservedBytes - removed.declared = _
    rw [h.reserved, ← hresv, Nat.add_sub_cancel]
  · show r.fragmentEntries - removed.fragments.length = _
    rw [h.stored, ← hstor, Nat.add_sub_cancel]
  · exact le_trans hlen h.inflightLimit
  · exact le_trans (sub_le _ _) h.reservedLimit
  · exact le_trans (sub_le _ _) h.storedLimit
  · exact fun entry hent => h.frame entry (mem_erase.1 hent).1

variable {declared : Nat}

section

variable (r : Reassembler) (key : FrameKey)

theorem shrinks_removeFrame : r.Shrinks (r.removeFrame key) where
  config := r.config_removeFrame key
  frames entry hent := by
    rw [frames_removeFrame, mem_erase] at hent
    exact hent.1
  sound hsnd := hsnd.removeFrame key

theorem shrinks_removeFrames (keys : List FrameKey) :
    r.Shrinks (r.removeFrames keys) := by
  induction keys generalizing r with
  | nil => exact .refl r
  | cons key keys ih => exact (r.shrinks_removeFrame key).trans (ih (r.removeFrame key))

theorem shrinks_expire (nowNs : UInt64) : r.Shrinks (r.expire nowNs).2 :=
  (r.shrinks_removeFrames _).trans (shrinks_stats _ _)

theorem shrinks_enterEpoch (packetEpoch : UInt32) :
    r.Shrinks (r.enterEpoch packetEpoch) := by
  unfold enterEpoch
  split
  · exact (r.shrinks_removeFrames _).trans shrinks_epoch
  · exact .refl r

theorem shrinks_evict : r.Shrinks (r.evict key) :=
  (r.shrinks_removeFrame key).trans (shrinks_stats _ _)

theorem shrinks_countConflict :
    r.Shrinks (r.removeFrame key).countConflict :=
  (r.shrinks_removeFrame key).trans (shrinks_stats _ _)

/-! ## Making room -/

/-- A reassembler that is not full has room for a frame. -/
theorem isFull_eq_false :
    r.isFull declared = false ↔
      r.frames.length < r.config.maxInflightFrames.toNat ∧
        r.reservedBytes + declared ≤ r.config.maxBufferedBytes.toNat := by
  obtain ⟨_, hbuffered⟩ := limits_of_validate r.valid
  unfold isFull usizeAdd usizeMax
  rw [decide_eq_false_iff_not]
  omega

end

/-- An empty reassembler is not full for a frame within the budget. -/
theorem Sound.not_isFull (h : r.Sound) (hdeclared : declared ≤ r.config.maxBufferedBytes.toNat)
    (hempty : r.frames.entries = []) :
    r.isFull declared = false := by
  obtain ⟨hinflight, _⟩ := limits_of_validate r.valid
  have hresv : r.reservedBytes = 0 := by
    rw [h.reserved, OrderedMap.total, hempty]
    rfl
  have hlen : r.frames.length = 0 := by
    rw [OrderedMap.length, hempty]
    rfl
  rw [isFull_eq_false, hresv, hlen, zero_add]
  exact ⟨hinflight, hdeclared⟩

theorem victim_eq_none (r : Reassembler) (h : r.victim = none) : r.frames.entries = [] := by
  unfold victim at h
  rw [Option.map_eq_none_iff, min?_eq_none_iff, map_eq_nil_iff] at h
  exact h

theorem mem_of_victim (r : Reassembler) (h : r.victim = some key) :
    ∃ part, (key, part) ∈ r.frames.entries := by
  unfold victim at h
  rw [Option.map_eq_some_iff] at h
  obtain ⟨_, hleast, hkey⟩ := h
  obtain ⟨entry, hent, heq⟩ := mem_map.1 (min?_mem hleast)
  refine ⟨entry.2, ?_⟩
  rw [← hkey, ← heq]
  exact hent

/-- A victim is a frame, so the reassembler has one frame less after it. -/
theorem length_evict (r : Reassembler) (h : r.victim = some key) :
    (r.evict key).frames.length + 1 = r.frames.length := by
  obtain ⟨_, hmem⟩ := r.mem_of_victim h
  have htotal := r.frames.total_erase_add (fun _ _ => 1) (get?_eq_some.2 hmem)
  rw [← length_eq_total, ← length_eq_total] at htotal
  show ((r.removeFrame key).frames).length + 1 = _
  rw [frames_removeFrame]
  exact htotal

/-- The loop ends with room for a frame within the budget. -/
theorem makeRoom_eq_ok {fuel : Nat} (h : r.Sound)
    (hdeclared : declared ≤ r.config.maxBufferedBytes.toNat) (hfuel : r.frames.length < fuel) :
    ∃ r', makeRoom fuel r declared = (.ok (), r') ∧ r.Shrinks r' ∧ r'.isFull declared = false := by
  induction fuel generalizing r with
  | zero => exact absurd hfuel (not_lt_zero _)
  | succ fuel ih =>
    rw [makeRoom]
    split_ifs with hfull
    · split
      · next hvictim =>
        -- Nothing is left to evict, but then the frame fits.
        have hroom := h.not_isFull hdeclared (r.victim_eq_none hvictim)
        rw [hroom] at hfull
        cases hfull
      next key hvictim =>
      have hshr := r.shrinks_evict key
      have hlen := r.length_evict hvictim
      obtain ⟨r', hroom, hshr', hnot⟩ := ih (hshr.sound h)
        (by rw [hshr.config]; exact hdeclared) (by omega)
      exact ⟨r', hroom, hshr.trans hshr', hnot⟩
    · exact ⟨r, rfl, .refl r, Bool.eq_false_iff.2 hfull⟩

end Reassembler

end LatencyDesk.Transport
