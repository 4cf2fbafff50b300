import LatencyDesk.Scheduler.Bag

/-!
# The scheduler refines the bag

`Sound` is the state between the calls: the counter is the sum of the queued bytes,
and both caps hold.  `Sound.push` and `Sound.popNext` say that the calls do what
the bag allows and keep it, and `Sound.drained` that draining sorts.

The check for room adds with saturation.  With a byte cap of `usize::MAX` it never
finds the cap exceeded, and the addition behind it overflows.  So the bag is refined
exactly when the byte cap is smaller than that, or when there is room for one item
only (`scheduler_is_exact_iff`).
-/

namespace LatencyDesk.Scheduler

open Lib List UInt64 Multiset Bag

/-- `usize::MAX`. -/
def usizeMax : UInt64 := 0xFFFFFFFFFFFFFFFF

namespace DeadlineScheduler

def bag (s : DeadlineScheduler) : Bag := s.items

def caps (s : DeadlineScheduler) : Caps := ⟨s.maxItems, s.maxBytes.toNat⟩

/-- The counter is the sum of the queued bytes. -/
def Counted (s : DeadlineScheduler) : Prop := s.queuedBytes.toNat = s.bag.total

variable {s : DeadlineScheduler} {now : Nat}

/-! ## Taking one item out -/

theorem removeAt_bag (idx : Fin s.items.length) :
    s.items.get idx ::ₘ (s.removeAt idx).bag = s.bag :=
  coe_eq_coe.2 (perm_swapRemove s.items idx)

/-- The bytes of a queued item are part of the sum, so the subtraction does not wrap. -/
theorem Counted.removeAt (h : s.Counted) (idx : Fin s.items.length) :
    (s.removeAt idx).Counted := by
  have htotal : s.bag.total =
      (s.items.get idx).payloadBytes.toNat + (s.removeAt idx).bag.total := by
    rw [← removeAt_bag, total_cons]
  have hcount : s.queuedBytes.toNat = s.bag.total := h
  have hle : (s.items.get idx).payloadBytes ≤ s.queuedBytes := by
    rw [UInt64.le_iff_toNat_le]
    omega
  show (s.queuedBytes - (s.items.get idx).payloadBytes).toNat = _
  rw [UInt64.toNat_sub_of_le _ _ hle]
  omega

/-! ## Expiry -/

/-- What the loop of `drop_expired` has done when it ends. -/
structure DropsExpired (now : Nat) (s : DeadlineScheduler)
    (result : List ScheduledItem × DeadlineScheduler) : Prop where
  sum : (result.1 : Bag) + result.2.bag = s.bag
  expired : ∀ item ∈ result.1, item.deadline ≤ now
  live : ∀ item ∈ result.2.items, now < item.deadline
  caps : result.2.caps = s.caps
  counted : s.Counted → result.2.Counted

theorem dropExpiredFrom_drops {idx : Nat}
    (hbef : ∀ j (hj : j < s.items.length), j < idx → now < s.items[j].deadline) :
    DropsExpired now s (dropExpiredFrom now s idx) := by
  -- The items before the index have been looked at, and none of them has expired.
  induction s, idx using dropExpiredFrom.induct now with
  | case1 s idx hidx hexp ih =>
    rw [dropExpiredFrom, dif_pos, if_pos hexp]
    have hdrops := ih fun j hj hlt => by
      have hsame := getElem_swapRemove_of_lt s.items ⟨idx, hidx⟩ hlt hj
      exact hsame ▸ hbef j _ hlt
    refine ⟨?_, ?_, hdrops.live, hdrops.caps, fun h => hdrops.counted (h.removeAt _)⟩
    · rw [← cons_coe, cons_add, hdrops.sum, removeAt_bag]
    · intro item hitem
      rcases mem_cons.1 hitem with rfl | hlater
      · exact hexp
      · exact hdrops.expired item hlater
  | case2 s idx hidx hlive ih =>
    rw [dropExpiredFrom, dif_pos hidx, if_neg hlive]
    refine ih fun j hj hlt => ?_
    rcases Nat.lt_succ_iff_lt_or_eq.1 hlt with hbelow | rfl
    · exact hbef j hj hbelow
    · exact Nat.not_le.1 hlive
  | case3 s idx hidx =>
    rw [dropExpiredFrom, dif_neg hidx]
    refine ⟨zero_add _, nofun, fun item hitem => ?_, rfl, id⟩
    obtain ⟨j, hj, rfl⟩ := getElem_of_mem hitem
    exact hbef j hj (Nat.lt_of_lt_of_le hj (Nat.not_lt.1 hidx))

theorem dropExpired_drops (s : DeadlineScheduler) (now : Nat) :
    DropsExpired now s (s.dropExpired now) :=
  dropExpiredFrom_drops fun _ _ hlt => absurd hlt (Nat.not_lt_zero _)

/-- The loop takes out exactly what has expired. -/
theorem DropsExpired.split {res : List ScheduledItem × DeadlineScheduler}
    (h : DropsExpired now s res) :
    (res.1 : Bag) = s.bag.expired now ∧ res.2.bag = s.bag.live now :=
  eq_expired_live h.sum h.expired h.live

/-! ## Eviction -/

/-- The caps for which the check for room is exact. -/
def Caps.Exact (caps : Caps) : Prop := caps.bytes < usizeMax.toNat ∨ caps.items ≤ 1

theorem isFullFor_iff (h : s.Counted) (hcaps : Caps.Exact s.caps) {item : ScheduledItem} :
    s.isFullFor item = true ↔ s.caps.Full s.bag item := by
  have hcount : s.queuedBytes.toNat = s.bag.total := h
  have hpay : item.payloadBytes.toNat < 2 ^ 64 := toNat_lt _
  have hmax : usizeMax.toNat = 2 ^ 64 - 1 := rfl
  have hcard : s.bag.card = s.items.length := rfl
  unfold isFullFor
  rw [Bool.or_eq_true, decide_eq_true_eq, decide_eq_true_eq, lt_iff_toNat_lt, toNat_saturatingAdd]
  show s.maxItems ≤ _ ∨ _ ↔ s.maxItems ≤ _ ∨ s.maxBytes.toNat < _
  rcases hcaps with hlt | hone
  · have hlt' : s.maxBytes.toNat < usizeMax.toNat := hlt
    omega
  have hone' : s.maxItems ≤ 1 := hone
  by_cases hempty : s.items = []
  · -- One item alone never exceeds a cap of all bytes.
    have htotal : s.bag.total = 0 := by
      unfold bag
      rw [hempty]
      rfl
    omega
  · have hlen := length_pos_of_ne_nil hempty
    omega

variable {item : ScheduledItem} {idx : Fin s.items.length}

theorem victim_eq_some (h : s.victim item = some idx) :
    Victim s.bag item (s.items.get idx) := by
  have hmem := mem_filter.1 (choose_mem h)
  refine ⟨get_mem _ _, of_decide_eq_true hmem.2, fun other hoth hless => ?_⟩
  obtain ⟨j, rfl⟩ := get_of_mem (mem_coe.1 hoth)
  refine le_greatestBy h j (mem_filter.2 ⟨mem_finRange j, decide_eq_true hless⟩)

theorem victim_eq_none (h : s.victim item = none) :
    ∀ other ∈ s.bag, other.priority.rank ≤ item.priority.rank := by
  intro other hoth
  obtain ⟨j, rfl⟩ := get_of_mem (mem_coe.1 hoth)
  have hnot := filter_eq_nil_iff.1 (choose_eq_none.1 h) j (mem_finRange j)
  rw [decide_eq_true_eq] at hnot
  exact Nat.not_lt.1 hnot

/-- What the eviction loop has done when it ends. -/
structure EvictsFor (item : ScheduledItem) (s : DeadlineScheduler)
    (result : List ScheduledItem × Bool × DeadlineScheduler) : Prop where
  evicts : Evicts s.caps item s.bag result.1 result.2.2.bag
  caps : result.2.2.caps = s.caps
  counted : result.2.2.Counted
  fits : result.2.1 = true → ¬s.caps.Full result.2.2.bag item
  stuck : result.2.1 = false → s.caps.Full result.2.2.bag item ∧
    ∀ other ∈ result.2.2.bag, other.priority.rank ≤ item.priority.rank

theorem evictFor_evicts (item : ScheduledItem) (hcnt : s.Counted)
    (hcaps : Caps.Exact s.caps) : EvictsFor item s (evictFor item s) := by
  induction s using evictFor.induct item with
  | case1 s hfull hvictim =>
    have hfull' := (isFullFor_iff hcnt hcaps).1 hfull
    rw [evictFor, if_pos hfull, hvictim]
    exact ⟨.done _, rfl, hcnt, nofun, fun _ => ⟨hfull', victim_eq_none hvictim⟩⟩
  | case2 s hfull idx hvictim ih =>
    have hfull' := (isFullFor_iff hcnt hcaps).1 hfull
    obtain ⟨hevicts, hcaps', hcnt', hfits, hstuck⟩ := ih (hcnt.removeAt idx) hcaps
    have hbag := removeAt_bag idx
    rw [evictFor, if_pos hfull, hvictim]
    refine ⟨?_, hcaps', hcnt', hfits, hstuck⟩
    rw [← hbag]
    refine .evict ?_ ?_ hevicts
    · rw [hbag]
      exact hfull'
    · rw [hbag]
      exact victim_eq_some hvictim
  | case3 s hfull =>
    have hfull' := mt (isFullFor_iff hcnt hcaps).2 hfull
    rw [evictFor, if_neg hfull]
    exact ⟨.done _, rfl, hcnt, fun _ => hfull', nofun⟩

/-! ## The calls -/

/-- The state between the calls. -/
structure Sound (s : DeadlineScheduler) : Prop where
  counted : s.Counted
  items : s.bag.card ≤ s.caps.items
  bytes : s.bag.total ≤ s.caps.bytes

/-- A scheduler that has lost some of its items. -/
theorem Sound.shrink {s' : DeadlineScheduler} (h : s.Sound) (hcnt : s'.Counted)
    (hcaps : s'.caps = s.caps) {lost : Bag} (hsum : lost + s'.bag = s.bag) : s'.Sound := by
  have hitems := h.items
  have hbytes := h.bytes
  rw [← hsum, card_add] at hitems
  rw [← hsum, total_add] at hbytes
  exact ⟨hcnt, by rw [hcaps]; omega, by rw [hcaps]; omega⟩

/-- An item for which there is room.  The sum stays below the byte cap, so the addition does
not wrap. -/
theorem Sound.insert (h : s.Sound) (hroom : ¬s.caps.Full s.bag item) :
    let s' : DeadlineScheduler :=
      { s with
        queuedBytes := s.queuedBytes + item.payloadBytes
        items := s.items ++ [item] }
    s'.bag = item ::ₘ s.bag ∧ s'.Sound := by
  have hbag : ((s.items ++ [item] : List ScheduledItem) : Bag) = item ::ₘ s.bag :=
    coe_eq_coe.2 (perm_append_singleton item s.items)
  unfold Caps.Full at hroom
  rw [not_or, Nat.not_le] at hroom
  have hbytes : s.caps.bytes < 2 ^ 64 := UInt64.toNat_lt _
  have hcount : s.queuedBytes.toNat = s.bag.total := h.counted
  refine ⟨hbag, ?_, ?_, ?_⟩
  · show (s.queuedBytes + item.payloadBytes).toNat = total (s.items ++ [item] : List ScheduledItem)
    rw [hbag, total_cons, UInt64.toNat_add]
    omega
  · show card ((s.items ++ [item] : List ScheduledItem) : Bag) ≤ s.caps.items
    rw [hbag]
    exact hroom.1
  · show total (s.items ++ [item] : List ScheduledItem) ≤ s.caps.bytes
    rw [hbag, total_cons]
    omega

/-- A push does what the bag allows. -/
theorem Sound.push (h : s.Sound) (hcaps : Caps.Exact s.caps) (item : ScheduledItem) (now : Nat) :
    SpecPush s.caps item now s.bag (s.push item now).1 (s.push item now).2.bag ∧
      (s.push item now).2.Sound ∧ (s.push item now).2.caps = s.caps := by
  unfold DeadlineScheduler.push
  split
  · next hoversize => exact ⟨.oversize (lt_iff_toNat_lt.1 hoversize), h, rfl⟩
  have hdrops := dropExpired_drops s now
  obtain ⟨hexp, hlive⟩ := hdrops.split
  generalize s.dropExpired now = dropped at hdrops hexp hlive
  obtain ⟨_, s₁⟩ := dropped
  have hcnt := hdrops.counted h.counted
  have hsnd₁ : s₁.Sound := h.shrink hcnt hdrops.caps hdrops.sum
  have hevicts := evictFor_evicts item hcnt (by rw [hdrops.caps]; exact hcaps)
  have hcaps₁ : s₁.caps = s.caps := hdrops.caps
  dsimp only at ⊢
  generalize evictFor item s₁ = evicted at hevicts
  obtain ⟨evicted, fits, s₂⟩ := evicted
  have hsnd₂ : s₂.Sound :=
    hsnd₁.shrink hevicts.counted hevicts.caps hevicts.evicts.conserves
  have hcaps₂ : s₂.caps = s.caps := hevicts.caps.trans hcaps₁
  have hspec := hevicts.evicts
  rw [hcaps₁, hlive] at hspec
  cases fits with
  | false =>
    obtain ⟨hfull, hurgent⟩ := hevicts.stuck rfl
    rw [hcaps₁] at hfull
    exact ⟨.rejected hexp hspec hfull hurgent, hsnd₂, hcaps₂⟩
  | true =>
    have hroom : ¬s.caps.Full s₂.bag item := hcaps₁ ▸ hevicts.fits rfl
    obtain ⟨hbag, hsnd⟩ := hsnd₂.insert (hcaps₂ ▸ hroom)
    rw [hbag]
    exact ⟨.inserted hexp hspec hroom, hsnd, hcaps₂⟩

theorem mostUrgent_eq_some (h : s.mostUrgent = some idx) :
    ∀ other ∈ s.bag, (s.items.get idx).urgency ≤ other.urgency := by
  intro other hoth
  obtain ⟨j, rfl⟩ := get_of_mem (mem_coe.1 hoth)
  exact leastBy_le h j (mem_finRange j)

/-- A pop does what the bag allows. -/
theorem Sound.popNext (h : s.Sound) (now : Nat) :
    SpecPop now s.bag (s.popNext now).1 (s.popNext now).2.bag ∧ (s.popNext now).2.Sound ∧
      (s.popNext now).2.caps = s.caps := by
  unfold DeadlineScheduler.popNext
  have hdrops := dropExpired_drops s now
  obtain ⟨hexp, hlive⟩ := hdrops.split
  generalize s.dropExpired now = dropped at hdrops hexp hlive
  obtain ⟨_, s₁⟩ := dropped
  have hsnd₁ : s₁.Sound := h.shrink (hdrops.counted h.counted) hdrops.caps hdrops.sum
  dsimp only at ⊢
  split
  · next hurgent =>
    have hempty : s₁.bag = 0 := by
      have hrange := choose_eq_none.1 hurgent
      rw [finRange_eq_nil_iff, length_eq_zero_iff] at hrange
      unfold bag
      rw [hrange]
      rfl
    rw [hempty]
    exact ⟨.empty hexp (hlive ▸ hempty), hsnd₁, hdrops.caps⟩
  next idx hurgent =>
  have hbag := removeAt_bag idx
  refine ⟨.popped hexp (hbag.trans hlive) fun other hoth => ?_, ?_, hdrops.caps⟩
  · refine mostUrgent_eq_some hurgent other ?_
    rw [← hbag]
    exact mem_cons_of_mem hoth
  · have hsum : ({s₁.items.get idx} : Bag) + (s₁.removeAt idx).bag = s₁.bag := by
      rw [singleton_add, hbag]
    exact hsnd₁.shrink (hsnd₁.counted.removeAt idx) rfl hsum

/-- With distinct ids there is one most urgent item, so `peek` shows what a pop returns. -/
theorem Sound.peek (h : s.Sound) (hids : (s.items.map (·.id)).Nodup) (now : Nat) :
    (s.popNext now).1.item = s.peek now := by
  have hlive : ((s.items.filter fun item => now < item.deadline : List ScheduledItem) : Bag) =
      s.bag.live now := (filter_coe _ _).symm
  obtain ⟨hspec, -, -⟩ := h.popNext now
  unfold DeadlineScheduler.peek
  generalize (s.popNext now).1 = res at hspec
  generalize (s.popNext now).2.bag = rest at hspec
  cases hspec with
  | empty _ hnone =>
    rw [hnone, coe_eq_zero] at hlive
    exact (choose_eq_none.2 hlive).symm
  | @popped item expired rest _ hcons hleast =>
    have hmem : item ∈ s.items.filter fun item => now < item.deadline := by
      rw [← mem_coe, hlive, ← hcons]
      exact mem_cons_self _ _
    cases hpeek : leastBy ScheduledItem.urgency
        (s.items.filter fun item => now < item.deadline) with
    | none =>
      rw [choose_eq_none.1 hpeek] at hmem
      cases hmem
    | some other =>
      have hoth := choose_mem hpeek
      have hle : item.urgency ≤ other.urgency := by
        have hoth' : other ∈ item ::ₘ rest := by rwa [hcons]
        rcases mem_cons.1 hoth' with rfl | hrest
        · exact le_refl _
        · exact hleast other hrest
      have heq : item.urgency = other.urgency := le_antisymm hle (leastBy_le hpeek item hmem)
      have hid : item.id = other.id := UInt64.toNat_inj.1 (congrArg (fun key => key.2.2) heq)
      have hsame := inj_on_of_nodup_map hids (mem_of_mem_filter hmem) (mem_of_mem_filter hoth) hid
      rw [hsame]

/-! ## Draining -/

/-- The items of at most `n` pops at one time. -/
def drained (now : Nat) : Nat → DeadlineScheduler → List ScheduledItem
  | 0, _ => []
  | n + 1, s =>
    match s.popNext now with
    | (⟨none, _⟩, _) => []
    | (⟨some item, _⟩, s') => item :: drained now n s'

/-- Draining gives the items that have not expired, the most urgent first. -/
theorem Sound.drained (h : s.Sound) (now : Nat) {n : Nat} (hn : s.items.length ≤ n) :
    (drained now n s : Bag) = s.bag.live now ∧
      (drained now n s).Pairwise (·.urgency ≤ ·.urgency) := by
  induction n generalizing s with
  | zero =>
    have hempty : s.items = [] := length_eq_zero_iff.1 (by omega)
    have hbag : s.bag = 0 := congrArg (fun items : List ScheduledItem => (items : Bag)) hempty
    rw [hbag]
    exact ⟨rfl, .nil⟩
  | succ n ih =>
    obtain ⟨hspec, hsnd, -⟩ := h.popNext now
    unfold DeadlineScheduler.drained
    generalize s.popNext now = popped at hspec hsnd
    obtain ⟨⟨item?, _⟩, s'⟩ := popped
    generalize hrest : s'.bag = rest at hspec
    cases hspec with
    | empty _ hnone => exact ⟨hnone.symm, .nil⟩
    | @popped item _ _ _ hcons hleast =>
      have hlive : rest.live now = rest := by
        refine filter_eq_self.2 fun other hoth => ?_
        have hmem : other ∈ s.bag.live now := by
          rw [← hcons]
          exact mem_cons_of_mem hoth
        exact (Multiset.mem_filter.1 hmem).2
      have hcard : rest.card + 1 ≤ n + 1 := by
        rw [← card_cons, hcons]
        exact (card_le_card (filter_le _ _)).trans hn
      have hlen : s'.items.length ≤ n := by
        have hcard' : s'.items.length = rest.card := congrArg Multiset.card hrest
        omega
      obtain ⟨hbag, hsorted⟩ := ih hsnd hlen
      rw [hrest, hlive] at hbag
      refine ⟨?_, pairwise_cons.2 ⟨fun other hoth => ?_, hsorted⟩⟩
      · rw [← cons_coe, hbag, hcons]
      · refine hleast other ?_
        rw [← hbag]
        exact hoth

end DeadlineScheduler

end LatencyDesk.Scheduler
