import LatencyDesk.Lib.Holdings
import LatencyDesk.Surface.Pool

/-!
# Every surface slot has one owner

The handles of a pool own its slots: up to order, the slots that are not available
are the ones that the handles stand for, each with the generation and the state
that its handle expects.  `Owned` is that invariant, over every interleaving of
acquisitions, imports and drops.

`Moves` lists what one acquisition of the lock can do in a world that meets the
invariant.  In particular a slot becomes available only when its own handle is
released: a handle outlives the slot of no other one.
-/

namespace LatencyDesk.Surface

open Lib Media List PoolInner Handle PoolWorld Slot ImportPoint

/-- What a slot that is not available holds. -/
def Slot.view (slot : Slot) : Option (UInt64 × SlotState) :=
  if slot.state = .available then none else some (slot.generation, slot.state)

/-- The slot that a handle stands for, as it expects it. -/
def Handle.claim (handle : Handle) : SurfaceId × UInt64 × SlotState :=
  (handle.id, handle.generation, handle.stage.slotState)

variable {gen : UInt64} {slot : Slot}

theorem Slot.view_eq_some {state : SlotState} :
    slot.view = some (gen, state) ↔
      slot.generation = gen ∧ slot.state = state ∧ state ≠ .available := by
  unfold view
  split_ifs with hstate
  · constructor
    · exact nofun
    · rintro ⟨-, rfl, hne⟩
      exact absurd hstate hne
  · simp only [Option.some.injEq, Prod.mk.injEq]
    constructor
    · rintro ⟨rfl, rfl⟩
      exact ⟨rfl, rfl, hstate⟩
    · rintro ⟨rfl, rfl, -⟩
      exact ⟨rfl, rfl⟩

theorem Slot.isSome_view : slot.view.isSome = !decide (slot.state = .available) := by
  unfold view
  split_ifs with hstate <;> simp [hstate]

theorem Stage.slotState_ne_available (stage : Stage) : stage.slotState ≠ .available := by
  cases stage <;> exact nofun

/-- The slot is the one that the handle stands for. -/
def Handle.Holds (handle : Handle) (slots : List Slot) : Prop :=
  ∃ slot, slots[handle.id]? = some slot ∧ slot.generation = handle.generation ∧
    slot.state = handle.stage.slotState

variable {handle : Handle} {id : SurfaceId} {index : Nat}

theorem Handle.mem_held {slots : List Slot} :
    handle.claim ∈ held view slots ↔ handle.Holds slots := by
  rw [LatencyDesk.Lib.mem_held]
  constructor
  · rintro ⟨slot, hslot, hview⟩
    obtain ⟨hgen, hstate, -⟩ := view_eq_some.1 hview
    exact ⟨slot, hslot, hgen, hstate⟩
  · rintro ⟨slot, hslot, hgen, hstate⟩
    exact ⟨slot, hslot, view_eq_some.2 ⟨hgen, hstate, handle.stage.slotState_ne_available⟩⟩

/-! ## The invariant -/

structure Owned (capacity : Nat) (world : PoolWorld) : Prop where
  claims : (world.handles.map Handle.claim).Perm (held Slot.view world.inner.slots)
  length : world.inner.slots.length = capacity
  small : capacity ≤ 4_096
  inUse : world.inner.inUse.toNat = world.handles.length
  clean : world.inner.stats.invalidTransitions = 0

variable {capacity : Nat} {world : PoolWorld}

section

variable (howned : Owned capacity world)

include howned

theorem Owned.holds (hmem : handle ∈ world.handles) :
    handle.Holds world.inner.slots :=
  mem_held.1 (howned.claims.subset (mem_map_of_mem hmem))

theorem Owned.nodup : (world.handles.map Handle.id).Nodup := by
  have hids := (howned.claims.map Prod.fst).nodup_iff.2 nodup_held
  rwa [map_map] at hids

theorem Owned.length_handles :
    world.handles.length =
      world.inner.slots.countP fun slot => !decide (slot.state = .available) := by
  have hlen := howned.claims.length_eq
  rw [length_map, length_held] at hlen
  rw [hlen]
  exact countP_congr fun slot _ => by rw [isSome_view]

theorem Owned.length_handles_le : world.handles.length ≤ capacity := by
  rw [howned.length_handles, ← howned.length]
  exact countP_le_length

end

/-! ## The moves of the world -/

/-- What one acquisition of the lock can do.  `Moves world event after` says that it leaves the
event and the world `after`. -/
inductive Moves (world : PoolWorld) : PoolEvent → PoolWorld → Prop
  | quiet : Moves world .quiet world
  /-- An acquisition is refused. -/
  | refused {error : SurfaceError} (stats : SurfacePoolStats)
      (hclean : stats.invalidTransitions = world.inner.stats.invalidTransitions) :
      Moves world (.acquired (.error error))
        { world with inner := { world.inner with stats := stats } }
  /-- A slot that was available is issued. -/
  | acquired {id : SurfaceId} {slot : Slot} (issued : Slot) {stats : SurfacePoolStats}
      (hslot : world.inner.slots[id]? = some slot) (hfree : slot.state = .available)
      (hissued : issued.state = .captureLeased)
      (hclean : stats.invalidTransitions = world.inner.stats.invalidTransitions) :
      Moves world (.acquired (.ok (id, issued.generation)))
        { inner := ⟨world.inner.slots.set id issued, saturatingAdd world.inner.inUse 1, stats⟩
          handles := world.handles ++ [⟨id, issued.generation, .lease⟩] }
  /-- A handle moves, and its slot does not. -/
  | staged {event : PoolEvent} {index : Nat} {handle : Handle} {stage : Stage}
      (hhandle : world.handles[index]? = some handle)
      (hstage : stage.slotState = handle.stage.slotState)
      (hevent : event = .quiet ∨ ∃ error, event = .failed handle error ∧ stage = .leaseDropping) :
      Moves world event (world.setStage index handle stage)
  /-- An import is finished. -/
  | finished {index : Nat} {handle : Handle} {slot finished : Slot} {stats : SurfacePoolStats}
      (hhandle : world.handles[index]? = some handle)
      (hslot : world.inner.slots[handle.id]? = some slot) (hleased : slot.state = .captureLeased)
      (hfinished : finished.state = .owned) (hgeneration : finished.generation = slot.generation)
      (hclean : stats.invalidTransitions = world.inner.stats.invalidTransitions) :
      Moves world .quiet
        { inner := { world.inner with
            slots := world.inner.slots.set handle.id finished, stats := stats }
          handles := world.handles.set index { handle with stage := .owned } }
  /-- A handle returns its slot. -/
  | released {index : Nat} {handle : Handle} {slot : Slot} (freed : Slot)
      (stats : SurfacePoolStats)
      (hhandle : world.handles[index]? = some handle)
      (hdropping : handle.stage.isDropping = true)
      (hslot : world.inner.slots[handle.id]? = some slot)
      (hfreed : freed.state = .available)
      (hclean : stats.invalidTransitions = world.inner.stats.invalidTransitions) :
      Moves world (.released handle)
        { inner := ⟨world.inner.slots.set handle.id freed,
            saturatingSub world.inner.inUse 1, stats⟩
          handles := world.handles.eraseIdx index }

variable {inner : PoolInner} {slot : Slot} {event : PoolEvent} {after : PoolWorld}
  (howned : Owned capacity world) (hhandle : world.handles[index]? = some handle)
  (hmoves : Moves world event after)

theorem countImport_invalidTransitions {stats : SurfacePoolStats} {path : ImportPath} :
    (countImport stats path).invalidTransitions = stats.invalidTransitions := by
  cases path <;> rfl

theorem acquire_moves {descriptor : FrameDescriptor} {destination : Option DestinationSurfaceSpec} :
    Moves world (world.step (.acquire descriptor destination)).1
      (world.step (.acquire descriptor destination)).2 := by
  rw [step]
  split_ifs with hval
  · unfold acquire
    cases hfind : world.inner.slots.findIdx? fun slot => slot.state = .available with
    | none => exact .refused _ rfl
    | some index =>
      obtain ⟨hlt, hfree, -⟩ := findIdx?_eq_some_iff_getElem.1 hfind
      exact .acquired ⟨_, .captureLeased, some descriptor, destination, none⟩
        (getElem?_eq_getElem hlt) (of_decide_eq_true hfree) rfl rfl
  · exact .refused world.inner.stats rfl

/-- The lease of a handle in an import finds its slot leased. -/
theorem leasedSlot_of_holds (hholds : handle.Holds inner.slots)
    (hstage : handle.stage.slotState = .captureLeased) :
    ∃ slot, inner.slots[handle.id]? = some slot ∧ slot.state = .captureLeased ∧
      inner.checkedSlot handle.id handle.generation = .ok slot ∧
      inner.leasedSlot handle.id handle.generation = .ok slot := by
  obtain ⟨slot, hslot, hgen, hstate⟩ := hholds
  rw [hstage] at hstate
  have hchecked : inner.checkedSlot handle.id handle.generation = .ok slot := by
    simp only [checkedSlot, hslot]
    rw [if_neg (not_not.2 hgen)]
  refine ⟨slot, hslot, hstate, hchecked, ?_⟩
  simp only [leasedSlot, hchecked]
  rw [if_neg (not_not.2 hstate)]

/-- What an acquisition of the lock in an import leads to: it finishes the import, or leaves
the pool as it is. -/
theorem ImportPoint.next_cases {point : ImportPoint}
    (hholds : (mk id gen (.importing point)).Holds inner.slots) :
    (∃ slot finished stats, inner.slots[id]? = some slot ∧ slot.state = .captureLeased ∧
        finished.state = .owned ∧ finished.generation = slot.generation ∧
        stats.invalidTransitions = inner.stats.invalidTransitions ∧
        point.next inner id gen =
          (.ok .owned, { inner with slots := inner.slots.set id finished, stats := stats })) ∨
      (∃ e, point.next inner id gen = (.error e, inner)) ∨
      ∃ next, point.next inner id gen = (.ok (.importing next), inner) := by
  obtain ⟨slot, hslot, hstate, hchecked, hleased⟩ := leasedSlot_of_holds hholds rfl
  cases point with
  | describe ledger =>
    simp only [next, PoolInner.descriptor, hleased]
    split
    · exact .inr (.inl ⟨_, rfl⟩)
    exact .inr (.inr ⟨_, rfl⟩)
  | noDestination ledger descriptor =>
    simp only [next, PoolInner.destination, hleased, importPlain]
    split_ifs with hdestination
    · exact .inr (.inl ⟨_, rfl⟩)
    split
    · exact .inr (.inl ⟨_, rfl⟩)
    exact .inr (.inr ⟨_, rfl⟩)
  | findDestination source ledger =>
    simp only [next, PoolInner.destination, hleased, importFromCapture]
    split
    · exact .inr (.inl ⟨_, rfl⟩)
    cases ledger.validateCaptureSource source with
    | error e => exact .inr (.inl ⟨_, rfl⟩)
    | ok =>
      simp only
      split_ifs with hmatch
      · exact .inr (.inl ⟨_, rfl⟩)
      · exact .inr (.inr ⟨_, rfl⟩)
  | compare source ledger destination =>
    simp only [next, PoolInner.descriptor, hleased]
    split
    · exact .inr (.inl ⟨_, rfl⟩)
    simp only [compareCapture]
    split_ifs with hmatch
    · exact .inr (.inl ⟨_, rfl⟩)
    · exact .inr (.inr ⟨_, rfl⟩)
  | finish ledger =>
    refine .inl ⟨slot, { slot with state := .owned, copyLedger := some ledger },
      countImport inner.stats ledger.path, hslot, hstate, rfl, rfl,
      countImport_invalidTransitions, ?_⟩
    simp only [next, finishImport, hchecked]
    rw [if_neg (not_not.2 hstate)]

variable (hdropping : handle.stage.isDropping = true)

include hdropping hhandle in
theorem release_moves (hholds : handle.Holds world.inner.slots) :
    Moves world (.released handle)
      { inner := world.inner.releaseSlot handle.id handle.generation handle.stage.slotState
        handles := world.handles.eraseIdx index } := by
  obtain ⟨slot, hslot, hgen, hstate⟩ := hholds
  unfold releaseSlot
  simp only [hslot]
  rw [if_pos ⟨hgen, hstate⟩]
  exact .released ⟨slot.generation, .available, none, none, none⟩
    { world.inner.stats with releases := saturatingAdd world.inner.stats.releases 1 }
    hhandle hdropping hslot rfl rfl

include howned in
theorem proceed_moves (index : Nat) :
    Moves world (world.step (.proceed index)).1 (world.step (.proceed index)).2 := by
  rw [step]
  split
  · rename_i id gen point hhandle
    have hholds := howned.holds (mem_of_getElem? hhandle)
    rcases next_cases hholds with
      ⟨slot, finished, stats, hslot, hleased, hfinished, hgen, hclean, hnext⟩ |
      ⟨e, hnext⟩ | ⟨next, hnext⟩
    · rw [hnext]
      exact .finished hhandle hslot hleased hfinished hgen hclean
    · rw [hnext]
      exact .staged hhandle rfl (.inr ⟨e, rfl, rfl⟩)
    · rw [hnext]
      exact .staged hhandle rfl (.inl rfl)
  · exact .quiet

include howned in
/-- What any call can do. -/
theorem step_moves (call : PoolCall) : Moves world (world.step call).1 (world.step call).2 := by
  cases call with
  | acquire descriptor destination => exact acquire_moves
  | beginImport index ledger =>
    rw [step]
    split
    · rename_i hhandle
      exact .staged hhandle rfl (.inl rfl)
    · exact .quiet
  | beginImportFromCapture index source ledger =>
    rw [step]
    split
    · rename_i hhandle
      split_ifs with hval
      · exact .staged hhandle rfl (.inl rfl)
      · exact .staged hhandle rfl (.inr ⟨_, rfl, rfl⟩)
    · exact .quiet
  | proceed index => exact proceed_moves howned index
  | drop index =>
    rw [step]
    split
    iterate 2
      · rename_i hhandle
        exact .staged hhandle rfl (.inl rfl)
    · exact .quiet
  | release index =>
    rw [step]
    cases hhandle : world.handles[index]? with
    | none => exact .quiet
    | some handle =>
      simp only
      split_ifs with hdropping
      · exact release_moves hhandle hdropping (howned.holds (mem_of_getElem? hhandle))
      · exact .quiet

/-! ## The moves keep the invariant -/

/-- The holding of a slot that is not available. -/
theorem holding_of_held (hstate : slot.state ≠ .available) :
    holding view id slot = [(id, slot.generation, slot.state)] := by
  rw [holding, view, if_neg hstate]
  rfl

theorem holding_of_available (hstate : slot.state = .available) :
    holding view id slot = [] := by
  rw [holding, view, if_pos hstate]
  rfl

variable {handles : List Handle}

/-- A handle list with the handle at one place in front. -/
theorem claims_perm (hhandle : handles[index]? = some handle) :
    (handles.map claim).Perm (handle.claim :: (handles.eraseIdx index).map claim) := by
  obtain ⟨hlt, rfl⟩ := List.getElem?_eq_some_iff.1 hhandle
  exact ((List.getElem_cons_eraseIdx_perm hlt).map claim).symm

theorem claims_set_perm {new : Handle} (hhandle : handles[index]? = some handle) :
    ((handles.set index new).map claim).Perm (new.claim :: (handles.eraseIdx index).map claim) := by
  obtain ⟨hlt, -⟩ := List.getElem?_eq_some_iff.1 hhandle
  exact (List.set_perm_cons_eraseIdx hlt new).map claim

include howned hhandle in
/-- The handle at a place holds its slot, and the others hold the other slots. -/
theorem Owned.others (hslot : world.inner.slots[handle.id]? = some slot) (new : Slot) :
    (held view (world.inner.slots.set handle.id new)).Perm
      (holding view handle.id new ++ (world.handles.eraseIdx index).map claim) := by
  obtain ⟨others, hbef, hafter⟩ := exists_held_set hslot
  obtain ⟨_, hslot', hgen, hstate⟩ := howned.holds (mem_of_getElem? hhandle)
  rw [hslot, Option.some.injEq] at hslot'
  subst hslot'
  have hheld : slot.state ≠ .available := by
    rw [hstate]
    exact handle.stage.slotState_ne_available
  rw [holding_of_held hheld, hgen, hstate] at hbef
  have hothers : others.Perm ((world.handles.eraseIdx index).map claim) :=
    ((howned.claims.symm.trans (claims_perm hhandle)).symm.trans hbef).cons_inv.symm
  exact (hafter new).trans (hothers.append_left _)

include howned hmoves in
theorem Owned.moves : Owned capacity after := by
  cases hmoves with
  | quiet => exact howned
  | refused stats hclean => exact { howned with clean := hclean.trans howned.clean }
  | @acquired id slot issued stats hslot hfree hiss hclean =>
    obtain ⟨others, hbef, hafter⟩ := exists_held_set hslot
    rw [holding_of_available hfree] at hbef
    have hclaims := hafter issued
    rw [holding_of_held (by rw [hiss]; exact nofun), hiss] at hclaims
    have hroom := howned.length_handles_le
    constructor
    · rw [List.map_append]
      refine List.perm_append_comm.trans (List.Perm.trans ?_ hclaims.symm)
      exact (howned.claims.trans hbef).cons _
    · rw [List.length_set]
      exact howned.length
    · exact howned.small
    · have := howned.small
      rw [toNat_saturatingAdd, howned.inUse, List.length_append, List.length_singleton,
        UInt64.toNat_one]
      omega
    · exact hclean.trans howned.clean
  | @staged event index handle stage hhandle hstage hev =>
    refine { howned with claims := ?_, inUse := ?_ }
    · have hclaim : claim { handle with stage := stage } = handle.claim := by
        simp only [claim, hstage]
      refine (claims_set_perm hhandle).trans ?_
      rw [hclaim]
      exact (claims_perm hhandle).symm.trans howned.claims
    · exact howned.inUse.trans (List.length_set ..).symm
  | @finished index handle slot finished stats hhandle hslot hleased hfinished hgen hclean =>
    constructor
    · have hothers := howned.others hhandle hslot finished
      obtain ⟨_, hslot', hsame, -⟩ := howned.holds (List.mem_of_getElem? hhandle)
      rw [hslot, Option.some.injEq] at hslot'
      subst hslot'
      rw [holding_of_held (by rw [hfinished]; exact nofun), hfinished, hgen, hsame] at hothers
      exact (claims_set_perm hhandle).trans hothers.symm
    · exact (List.length_set ..).trans howned.length
    · exact howned.small
    · exact howned.inUse.trans (List.length_set ..).symm
    · exact hclean.trans howned.clean
  | @released index handle slot freed stats hhandle hdropping hslot hfreed hclean =>
    constructor
    · have hothers := howned.others hhandle hslot freed
      rw [holding_of_available hfreed] at hothers
      exact hothers.symm
    · exact (List.length_set ..).trans howned.length
    · exact howned.small
    · obtain ⟨hlt, -⟩ := List.getElem?_eq_some_iff.1 hhandle
      rw [toNat_saturatingSub, howned.inUse, UInt64.toNat_one, List.length_eraseIdx_of_lt hlt]
    · exact hclean.trans howned.clean

include howned in
theorem Owned.step (call : PoolCall) :
    Owned capacity (world.step call).2 :=
  howned.moves (step_moves howned call)

theorem heldFrom_replicate (start capacity : Nat) :
    heldFrom view start (replicate capacity ⟨gen, .available, none, none, none⟩) = [] := by
  induction capacity generalizing start with
  | zero => rfl
  | succ capacity ih =>
    rw [replicate_succ, heldFrom, ih]
    rfl

theorem owned_new (hnew : new capacity = some inner) : Owned capacity ⟨inner, []⟩ := by
  unfold new at hnew
  split_ifs at hnew with hcapacity
  rw [Option.some.injEq] at hnew
  subst hnew
  refine ⟨?_, length_replicate, hcapacity.2, rfl, rfl⟩
  rw [held, heldFrom_replicate]
  exact List.Perm.refl _

theorem owned_run (hnew : new capacity = some inner) {calls : List PoolCall} :
    Owned capacity (poolMachine.run ⟨inner, []⟩ calls) :=
  poolMachine.run_induction (P := Owned capacity) (owned_new hnew)
    (fun _ call howned => howned.step call) calls

/-! ## What the invariant says -/

/-- The handles and the slots that are not available, one for one. -/
structure OwnedOnce (capacity : Nat) (world : PoolWorld) : Prop where
  distinct : (world.handles.map Handle.id).Nodup
  holds : ∀ handle ∈ world.handles, handle.Holds world.inner.slots
  owner : ∀ id slot, world.inner.slots[id]? = some slot → slot.state ≠ .available →
    ∃ handle ∈ world.handles, handle.id = id
  inUse : world.inner.inUse.toNat =
    world.inner.slots.countP fun slot => !decide (slot.state = .available)
  count : world.inner.inUse.toNat = world.handles.length
  bounded : world.inner.inUse.toNat ≤ capacity
  clean : world.inner.stats.invalidTransitions = 0

/-- How the slots come back. -/
structure Returns (world : PoolWorld) : Prop where
  /-- A failed import goes on with the drop of its lease. -/
  failed : ∀ call handle error, (world.step call).1 = .failed handle error →
    ∃ index : Nat,
      (world.step call).2.handles[index]? = some { handle with stage := .leaseDropping }
  /-- So does an abandoned handle. -/
  dropped : ∀ index handle, world.handles[index]? = some handle →
    handle.stage = .lease ∨ handle.stage = .owned →
    ∃ stage, stage.isDropping = true ∧
      (world.step (.drop index)).2.handles[index]? = some { handle with stage := stage }
  /-- The drop frees the slot, and the handle is gone. -/
  released : ∀ index handle, world.handles[index]? = some handle →
    handle.stage.isDropping = true →
    (world.step (.release index)).1 = .released handle ∧
      (∃ slot, (world.step (.release index)).2.inner.slots[handle.id]? = some slot ∧
        slot.state = .available) ∧
      (world.step (.release index)).2.handles = world.handles.eraseIdx index
  /-- A slot that comes free was still the slot of the handle that is dropped. -/
  own : ∀ call id slot freed, world.inner.slots[id]? = some slot → slot.state ≠ .available →
    (world.step call).2.inner.slots[id]? = some freed → freed.state = .available →
    ∃ handle ∈ world.handles, (world.step call).1 = .released handle ∧ handle.id = id ∧
      handle.generation = slot.generation
  /-- A drop changes no other slot. -/
  others : ∀ call handle id, (world.step call).1 = .released handle → id ≠ handle.id →
    (world.step call).2.inner.slots[id]? = world.inner.slots[id]?

include howned in
theorem Owned.ownedOnce : OwnedOnce capacity world := by
  have hcount := howned.length_handles
  refine ⟨howned.nodup, fun handle hmem => howned.holds hmem, ?_, ?_, howned.inUse, ?_,
    howned.clean⟩
  · intro id slot hslot hstate
    have hview : slot.view = some (slot.generation, slot.state) :=
      view_eq_some.2 ⟨rfl, rfl, hstate⟩
    have hheld := howned.claims.symm.subset (LatencyDesk.Lib.mem_held.2 ⟨slot, hslot, hview⟩)
    obtain ⟨handle, hmem, hclaim⟩ := mem_map.1 hheld
    exact ⟨handle, hmem, congrArg Prod.fst hclaim⟩
  · rw [howned.inUse, hcount]
  · rw [howned.inUse]
    exact howned.length_handles_le

include howned hmoves in
/-- A slot that a move makes available. -/
theorem Moves.own {freed : Slot} (hslot : world.inner.slots[id]? = some slot)
    (hheld : slot.state ≠ .available) (hafter : after.inner.slots[id]? = some freed)
    (hfree : freed.state = .available) :
    ∃ handle ∈ world.handles, event = .released handle ∧ handle.id = id ∧
      handle.generation = slot.generation := by
  -- Every move but a release leaves the slot as it is, or writes a state that is not available.
  have hunchanged : ¬ world.inner.slots[id]? = some freed := by
    intro heq
    rw [hslot, Option.some.injEq] at heq
    exact hheld (heq ▸ hfree)
  have hset : ∀ {place : SurfaceId} {new : Slot}, new.state ≠ .available →
      (world.inner.slots.set place new)[id]? = some freed → False := by
    intro place new hnew hget
    rw [getElem?_set] at hget
    split_ifs at hget with hlt
    · rw [Option.some.injEq] at hget
      exact hnew (hget ▸ hfree)
    · exact hunchanged hget
  cases hmoves with
  | quiet | refused stats hclean | staged hhandle hstage hev => exact absurd hafter hunchanged
  | acquired issued _ _ hiss => exact (hset (by rw [hiss]; exact nofun) hafter).elim
  | finished _ _ _ hfinished => exact (hset (by rw [hfinished]; exact nofun) hafter).elim
  | @released index handle slot' freed' stats hhandle hdropping hslot' hfreed hclean =>
    have hmem := mem_of_getElem? hhandle
    by_cases hid : handle.id = id
    · subst hid
      obtain ⟨_, hslot'', hgen, -⟩ := howned.holds hmem
      rw [hslot, Option.some.injEq] at hslot''
      subst hslot''
      exact ⟨handle, hmem, rfl, rfl, hgen.symm⟩
    · rw [getElem?_set_ne hid] at hafter
      exact absurd hafter hunchanged

include hmoves in
theorem Moves.failed {e : SurfaceError} (hev : event = .failed handle e) :
    ∃ index : Nat, after.handles[index]? = some { handle with stage := .leaseDropping } := by
  cases hmoves with
  | @staged event index handle' stage hhandle hstage hcases =>
    rcases hcases with rfl | ⟨_, rfl, rfl⟩
    · cases hev
    cases hev
    obtain ⟨hlt, -⟩ := List.getElem?_eq_some_iff.1 hhandle
    exact ⟨index, List.getElem?_set_self hlt⟩
  | quiet | refused | acquired | finished | released => cases hev

include hmoves in
theorem Moves.others (hev : event = .released handle) (hid : id ≠ handle.id) :
    after.inner.slots[id]? = world.inner.slots[id]? := by
  cases hmoves with
  | released =>
    cases hev
    exact getElem?_set_ne hid.symm
  | staged hhandle hstage hcases => rfl
  | quiet | refused | acquired | finished => cases hev

include hhandle in
theorem step_drop (hstage : handle.stage = .lease ∨ handle.stage = .owned) :
    ∃ stage, stage.isDropping = true ∧
      (world.step (.drop index)).2.handles[index]? = some { handle with stage := stage } := by
  obtain ⟨hlt, -⟩ := List.getElem?_eq_some_iff.1 hhandle
  obtain ⟨_, _⟩ := handle
  rcases hstage with hstage | hstage
  · cases hstage
    refine ⟨.leaseDropping, rfl, ?_⟩
    simp only [step, hhandle]
    exact List.getElem?_set_self hlt
  · cases hstage
    refine ⟨.ownedDropping, rfl, ?_⟩
    simp only [step, hhandle]
    exact List.getElem?_set_self hlt

include hdropping howned hhandle in
theorem Owned.step_release :
    (world.step (.release index)).1 = .released handle ∧
      (∃ slot, (world.step (.release index)).2.inner.slots[handle.id]? = some slot ∧
        slot.state = .available) ∧
      (world.step (.release index)).2.handles = world.handles.eraseIdx index := by
  obtain ⟨_, hslot, hgen, hstate⟩ := howned.holds (List.mem_of_getElem? hhandle)
  obtain ⟨hlt, -⟩ := List.getElem?_eq_some_iff.1 hslot
  simp only [PoolWorld.step, hhandle, hdropping, if_true, releaseSlot, hslot, hgen,
    hstate, true_and, and_true]
  exact ⟨_, List.getElem?_set_self hlt, rfl⟩

include howned in
theorem Owned.returns : Returns world where
  failed call _ _ hev := (step_moves howned call).failed hev
  dropped _ _ hhandle hstage := step_drop hhandle hstage
  released _ _ hhandle hdropping := howned.step_release hhandle hdropping
  own call _ _ _ hslot hheld hafter hfree :=
    (step_moves howned call).own howned hslot hheld hafter hfree
  others call _ _ hev hid := (step_moves howned call).others hev hid

/-- In every interleaving of acquisitions, imports and drops, the slots that are not available
are owned by one handle each, and come back when that handle is dropped. -/
theorem surface_slots_are_owned_once {capacity : Nat} {inner : PoolInner}
    (hnew : new capacity = some inner) (calls : List PoolCall) :
    OwnedOnce capacity (poolMachine.run ⟨inner, []⟩ calls) ∧
      Returns (poolMachine.run ⟨inner, []⟩ calls) :=
  ⟨(owned_run hnew).ownedOnce, (owned_run hnew).returns⟩

def sampleDescriptor : FrameDescriptor := ⟨1_920, 1_080, 0x41524742, .d3d11, 7, 7_000⟩

/-- A copy of the sample frame within one device. -/
def sampleLedger : CopyLedger where
  sourceLease := ⟨1, 7⟩
  sourceDevice := .named 1
  destinationDevice := .named 1
  sourceLayout := ⟨.d3d11, 0x41524742, 1, none⟩
  destinationLayout := ⟨.d3d11, 0x41524742, 1, none⟩
  transferEdge := .captureToEncoder
  path := .gpuCopy
  synchronization := .d3d11EventQuery
  completion := .proven
  fallbackReason := none
  evidence := .completionProven

/-- Two leases are taken, the first is imported and dropped, and its slot is issued again while
the drop of the second is under way. -/
theorem sample_surface_slots_are_owned_once :
    ∃ inner, new 2 = some inner ∧
      OwnedOnce 2 (poolMachine.run ⟨inner, []⟩
        [.acquire sampleDescriptor none, .acquire sampleDescriptor none,
          .beginImport 0 sampleLedger, .proceed 0, .proceed 0, .drop 1, .proceed 0, .drop 0,
          .release 0, .acquire sampleDescriptor none, .release 0]) ∧
      (poolMachine.run ⟨inner, []⟩
        [.acquire sampleDescriptor none, .acquire sampleDescriptor none,
          .beginImport 0 sampleLedger, .proceed 0, .proceed 0, .drop 1, .proceed 0, .drop 0,
          .release 0, .acquire sampleDescriptor none, .release 0]).inner.slots.map
        (fun slot => (slot.generation, slot.state)) =
        [(2, .captureLeased), (1, .available)] :=
  ⟨_, rfl, (surface_slots_are_owned_once rfl _).1, by decide⟩

end LatencyDesk.Surface
