import LatencyDesk.Transport.Reassembler

/-!
# One frame under construction

`Consistent` is the invariant of a partial frame.  Its fragments are non-empty,
they lie one behind the other inside the declared length, and the frame counts
the bytes that it holds.

`insertFragment_cases` says what `insert_fragment` can do to such a frame.  It
compares a new fragment with its two neighbours only, which is enough because
the fragments are ordered and disjoint.  `assemble_eq_ok` says that a frame with
all its bytes is assembled: disjoint fragments that fill the declared length
leave no gap.
-/

namespace LatencyDesk.Transport

open Lib Protocol List OrderedMap Nat Except

/-- A sum within the word does not saturate. -/
theorem usizeAdd_eq {a b : Nat} (h : a + b < 2 ^ 64) : usizeAdd a b = a + b :=
  min_eq_left (le_sub_one_of_lt h)

/-- The number of payload bytes of a list of fragments. -/
def payloadBytes (fragments : List (Nat × List UInt8)) : Nat :=
  (fragments.map fun fragment => fragment.2.length).sum

/-- The first fragment ends before the second begins. -/
def Before (a b : Nat × List UInt8) : Prop := a.1 + a.2.length ≤ b.1

/-- The invariant of a frame, apart from the number of its fragments. -/
structure PartialFrame.Consistent (part : PartialFrame) : Prop where
  declared : part.declared ≤ 16 * 1024 * 1024
  nonempty : ∀ fragment ∈ part.fragments.entries, fragment.2 ≠ []
  disjoint : part.fragments.entries.Pairwise Before
  inside : ∀ fragment ∈ part.fragments.entries, fragment.1 + fragment.2.length ≤ part.declared
  received : part.receivedBytes = payloadBytes part.fragments.entries

/-! ## Fragments in a range -/

variable {start stop : Nat} {fragments : List (Nat × List UInt8)}

/-- Disjoint fragments in a range hold at most as many bytes as the range. -/
theorem payloadBytes_le (hle : start ≤ stop)
    (hdisj : fragments.Pairwise Before) (hstart : ∀ frag ∈ fragments, start ≤ frag.1)
    (hstop : ∀ frag ∈ fragments, frag.1 + frag.2.length ≤ stop) :
    payloadBytes fragments ≤ stop - start := by
  induction fragments generalizing start with
  | nil => exact zero_le _
  | cons frag rest ih =>
    rw [pairwise_cons] at hdisj
    rw [forall_mem_cons] at hstart hstop
    have hrest := ih hstop.1 hdisj.2 hdisj.1 hstop.2
    have hsum : payloadBytes (frag :: rest) = frag.2.length + payloadBytes rest := rfl
    omega

/-- Disjoint fragments that fill a range are copied one behind the other. -/
theorem copyFragments_eq_ok {bytes : List UInt8}
    (hdisj : fragments.Pairwise Before) (hstart : ∀ frag ∈ fragments, start ≤ frag.1)
    (hstop : ∀ frag ∈ fragments, frag.1 + frag.2.length ≤ bytes.length)
    (hfill : start + payloadBytes fragments = bytes.length) (hword : bytes.length < 2 ^ 32) :
    copyFragments fragments bytes start =
      .ok (bytes.take start ++ fragments.flatMap Prod.snd, bytes.length) := by
  induction fragments generalizing start bytes with
  | nil =>
    have hlen : start = bytes.length := hfill
    rw [copyFragments, hlen, take_length, flatMap_nil, append_nil]
  | cons frag rest ih =>
    obtain ⟨offset, payload⟩ := frag
    rw [pairwise_cons] at hdisj
    rw [forall_mem_cons] at hstart hstop
    have hsum : payloadBytes ((offset, payload) :: rest) = payload.length + payloadBytes rest := rfl
    -- The rest fits behind this fragment, so this fragment starts the range.
    have hrest : payloadBytes rest ≤ bytes.length - (offset + payload.length) :=
      payloadBytes_le hstop.1 hdisj.2 hdisj.1 hstop.2
    have hhead : start ≤ offset ∧ offset + payload.length ≤ bytes.length := ⟨hstart.1, hstop.1⟩
    have hoffset : offset = start := by omega
    subst hoffset
    have hlen : (bytes.take offset ++ payload ++ bytes.drop (offset + payload.length)).length =
        bytes.length := by
      rw [length_append, length_append, length_take, length_drop]
      omega
    have htake : (bytes.take offset ++ payload ++ bytes.drop (offset + payload.length)).take
        (offset + payload.length) = bytes.take offset ++ payload := by
      refine take_left' ?_
      rw [length_append, length_take]
      omega
    rw [copyFragments]
    rw [if_neg (not_not.2 rfl), if_neg (by unfold usizeMax; omega), if_neg (by omega),
      if_neg (by omega)]
    have hnext : offset + payload.length + payloadBytes rest = bytes.length := by omega
    rw [ih hdisj.2 hdisj.1 (hlen ▸ hstop.2) (hlen ▸ hnext) (hlen ▸ hword), hlen,
      htake, flatMap_cons, append_assoc]

variable {part : PartialFrame} (h : part.Consistent)

include h in
/-- A frame with all its bytes is assembled from its fragments in order. -/
theorem assemble_eq_ok (hfull : part.receivedBytes = part.declared) (completedNs : UInt64) :
    assemble part completedNs =
      .ok
        { header := part.canonical
          bytes := part.fragments.entries.flatMap Prod.snd
          firstFragmentNs := part.firstSeenNs
          completedNs := completedNs } := by
  have hlen : (replicate part.declared (0 : UInt8)).length = part.declared :=
    length_replicate
  have hfill : 0 + payloadBytes part.fragments.entries = part.declared := by
    rw [zero_add, ← h.received, hfull]
  have hword : part.declared < 2 ^ 32 := by
    have := h.declared
    omega
  unfold assemble
  rw [if_neg (not_not.2 hfull), copyFragments_eq_ok h.disjoint (fun _ _ => zero_le _)
    (hlen.symm ▸ h.inside) (hlen.symm ▸ hfill) (hlen.symm ▸ hword), hlen]
  dsimp only
  rw [if_neg (not_not.2 rfl), take_zero, nil_append]

/-! ## A new fragment -/

variable {fragments : OrderedMap Nat (List UInt8)} {offset : Nat}

theorem checkPrevious_eq_ok (hdisj : fragments.entries.Pairwise Before)
    (h : checkPrevious fragments offset = .ok ()) :
    ∀ frag ∈ fragments.below offset, frag.1 + frag.2.length ≤ offset := by
  unfold checkPrevious at h
  split at h
  · next hlast =>
    rw [getLast?_eq_none_iff.1 hlast]
    exact nofun
  next hlast =>
  split_ifs at h with hword hoverlap
  obtain ⟨_, hfront⟩ := getLast?_eq_some_iff.1 hlast
  have hpairwise : (fragments.below offset).Pairwise Before := hdisj.filter _
  rw [hfront, pairwise_append] at hpairwise
  rw [hfront]
  intro frag hmem
  rcases mem_append.1 hmem with hmem | hmem
  · -- An earlier fragment ends before the last one begins.
    have hbef := hpairwise.2.2 frag hmem _ (mem_singleton.2 rfl)
    unfold Before at hbef
    omega
  · rw [mem_singleton.1 hmem]
    exact Nat.le_of_not_lt hoverlap

theorem checkNext_eq_ok (h : checkNext fragments offset stop = .ok ()) :
    ∀ frag ∈ fragments.above offset, stop ≤ frag.1 := by
  intro frag hmem
  rw [mem_above] at hmem
  have hat : frag ∈ fragments.atLeast offset :=
    mem_filter.2 ⟨hmem.1, decide_eq_true (le_of_lt hmem.2)⟩
  unfold checkNext at h
  split at h
  · next hhead =>
    rw [head?_eq_none_iff.1 hhead] at hat
    cases hat
  next hhead =>
  split_ifs at h with hoverlap
  obtain ⟨_, hrest⟩ := head?_eq_some_iff.1 hhead
  have hsorted : (fragments.atLeast offset).Pairwise fun a b => a.1 < b.1 :=
    fragments.sorted.filter _
  rw [hrest, pairwise_cons] at hsorted
  rw [hrest] at hat
  rcases mem_cons.1 hat with heq | hin
  · rw [heq]
    exact Nat.le_of_not_lt hoverlap
  · have hlt := hsorted.1 frag hin
    omega

include h in
theorem checkPrevious_ne_arithmetic (offset : Nat) :
    checkPrevious part.fragments offset ≠ .error .arithmetic := by
  unfold checkPrevious
  cases hlast : (part.fragments.below offset).getLast? with
  | none => exact nofun
  | some prev =>
    have hmem : prev ∈ part.fragments.entries :=
      (mem_below.1 (mem_of_getLast? hlast)).1
    have hins := h.inside prev hmem
    have hdeclared := h.declared
    dsimp only
    rw [if_neg (by omega)]
    split <;> exact nofun

variable {payload : List UInt8}

include h in
/-- A fragment at a new offset that its neighbours leave room for. -/
theorem PartialFrame.Consistent.add (hpay : payload ≠ [])
    (hins : offset + payload.length ≤ part.declared) (hget : part.fragments.get? offset = none)
    {maxFragmentsPerFrame : Nat}
    (hcheck : checkInsertion part offset payload maxFragmentsPerFrame = .ok ()) (nowNs : UInt64) :
    (addFragment part offset payload nowNs).Consistent ∧
      (addFragment part offset payload nowNs).receivedBytes = part.receivedBytes + payload.length ∧
      (addFragment part offset payload nowNs).fragments.length = part.fragments.length + 1 ∧
      part.fragments.length < maxFragmentsPerFrame := by
  unfold checkInsertion at hcheck
  split_ifs at hcheck with hlimit
  split at hcheck
  · cases hcheck
  next hprev =>
  have hbelow := checkPrevious_eq_ok h.disjoint hprev
  have habove := checkNext_eq_ok hcheck
  have hdisj : (addFragment part offset payload nowNs).fragments.entries.Pairwise Before := by
    refine pairwise_append.2 ⟨h.disjoint.filter _, ?_, ?_⟩
    · exact pairwise_cons.2 ⟨habove, h.disjoint.filter _⟩
    · intro a ha b hb
      rcases mem_cons.1 hb with rfl | hb
      · exact hbelow a ha
      have := hbelow a ha
      have := habove b hb
      show a.1 + a.2.length ≤ b.1
      omega
  have hins' : ∀ frag ∈ (addFragment part offset payload nowNs).fragments.entries,
      frag.1 + frag.2.length ≤ part.declared :=
    forall_mem_insert hins h.inside
  have hsum : payloadBytes (addFragment part offset payload nowNs).fragments.entries =
      payloadBytes part.fragments.entries + payload.length := by
    have htotal := total_insert part.fragments (fun _ payload => payload.length) offset payload
    rw [erase_of_get?_eq_none hget] at htotal
    exact htotal
  have hcount : (addFragment part offset payload nowNs).fragments.length =
      part.fragments.length + 1 := by
    have htotal := total_insert part.fragments (fun _ _ => 1) offset payload
    rw [erase_of_get?_eq_none hget, ← length_eq_total, ← length_eq_total] at htotal
    exact htotal
  -- The declared length is far below the largest word, so the sum does not saturate.
  have hrecv : (addFragment part offset payload nowNs).receivedBytes =
      part.receivedBytes + payload.length := by
    have hfit := payloadBytes_le (zero_le part.declared) hdisj (fun _ _ => zero_le _) hins'
    have hdeclared := h.declared
    have hold := h.received
    exact usizeAdd_eq (by omega)
  refine ⟨⟨h.declared, ?_, hdisj, hins', ?_⟩, hrecv, hcount, by omega⟩
  · exact forall_mem_insert hpay h.nonempty
  · rw [hrecv, hsum, h.received]

/-- What `insert_fragment` can do to a consistent frame. -/
inductive Inserted (part : PartialFrame) (offset : Nat) (payload : List UInt8) (nowNs : UInt64)
    (maxFragmentsPerFrame : Nat) : Except TransportError FragmentInsertion × PartialFrame → Prop
  | duplicate (hget : part.fragments.get? offset = some payload) :
      Inserted part offset payload nowNs maxFragmentsPerFrame (.ok .duplicate, part)
  | added (hget : part.fragments.get? offset = none)
      (hcheck : checkInsertion part offset payload maxFragmentsPerFrame = .ok ()) :
      Inserted part offset payload nowNs maxFragmentsPerFrame
        (.ok (.added payload.length), addFragment part offset payload nowNs)
  | refused (error : TransportError) (harithmetic : error ≠ .arithmetic)
      (hfresh : error = .fragmentConflict ∨ error = .fragmentEntryLimit ∨
        error = .fragmentOverlap) :
      Inserted part offset payload nowNs maxFragmentsPerFrame (.error error, part)

include h in
theorem insertFragment_cases (hins : offset + payload.length ≤ part.declared) (nowNs : UInt64)
    (maxFragmentsPerFrame : Nat) :
    Inserted part offset payload nowNs maxFragmentsPerFrame
      (insertFragment part offset payload nowNs maxFragmentsPerFrame) := by
  have hdeclared := h.declared
  unfold insertFragment
  rw [if_neg (by omega)]
  cases hget : part.fragments.get? offset with
  | some existing =>
    dsimp only
    split
    · next heq => exact .duplicate (heq ▸ hget)
    · exact .refused _ (nofun) (.inl rfl)
  | none =>
    cases hcheck : checkInsertion part offset payload maxFragmentsPerFrame with
    | ok => exact .added hget hcheck
    | error e =>
      have hkind : e = .fragmentEntryLimit ∨ e = .fragmentOverlap := by
        unfold checkInsertion at hcheck
        split_ifs at hcheck
        · exact .inl (error.inj hcheck).symm
        right
        split at hcheck
        · next hprev =>
          have hne := checkPrevious_ne_arithmetic h offset
          rw [hprev] at hne
          rw [← error.inj hcheck]
          unfold checkPrevious at hprev
          split at hprev
          · cases hprev
          split_ifs at hprev
          · exact absurd hprev.symm hne
          · exact (error.inj hprev).symm
        · unfold checkNext at hcheck
          split at hcheck
          · cases hcheck
          split_ifs at hcheck
          exact (error.inj hcheck).symm
      refine .refused e ?_ (.inr hkind)
      rintro rfl
      rcases hkind with hkind | hkind <;> cases hkind

end LatencyDesk.Transport
