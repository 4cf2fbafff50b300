import LatencyDesk.Lib.Since
import LatencyDesk.Platform.Presentation

/-!
# Who may release a surface

A frame that is handed to the renderer is released by the coordinator, and only when
the renderer has said that native work is over: by `Complete` for that submission, by
a quiescence while it was in flight, or by a failure of `present` with that lease.
There is one more way, which does not go through the coordinator: a failure that the
renderer makes of a guard and drops takes the surface with it.  A guard becomes either
a failure or a submission, and native work can reach the surface of a submission
alone, so nothing that native work may access is released that way.

`Guarded` says so for each entry of the log.  The proof goes along two invariants:
`Ledger` is about the tokens at large, and `Flight` about the presentation in flight.
-/

namespace LatencyDesk.Platform

open Lib List PresentationWorld Note PresentationCoordinator UInt64

/-! ## The log -/

def Note.isPresented : Note → Bool
  | .presented .. => true
  | _ => false

/-- The presentation in flight is over. -/
def Note.settles : Note → Bool
  | .completed _ | .quiesced _ | .refused _ => true
  | _ => false

def Note.isQuiesced : Note → Bool
  | .quiesced _ => true
  | _ => false

/-- The renderer has broken its contract. -/
def Note.breaks : Note → Bool
  | .mismatched | .panicked => true
  | _ => false

/-- The entry is none of the above. -/
def Note.passive (note : Note) : Bool :=
  !(note.isPresented || note.settles || note.breaks)

/-- A call of `present` is not settled. -/
def Outstanding (log : List Note) : Prop :=
  Since (·.settles = false) (fun _ note => note.isPresented = true) log

/-- The renderer has broken its contract, and no quiescence has succeeded since. -/
def Broken (log : List Note) : Prop :=
  Since (·.isQuiesced = false) (fun _ note => note.breaks = true) log

/-- The lease is the one that `present` was last called with. -/
def Latest (log : List Note) (lease : PresentationLease) : Prop :=
  Since (·.isPresented = false)
    (fun _ note => ∃ nowNs queued remaining, note = .presented nowNs lease queued remaining) log

/-- `present` was called with the lease. -/
def Presented (log : List Note) (lease : PresentationLease) : Prop :=
  ∃ nowNs queued remaining, Note.presented nowNs lease queued remaining ∈ log

/-- What an entry of the log says about the entries before it. -/
def Guarded (coordinatorId : Option UInt64) (log : List Note) : Note → Prop
  | .presented _ lease _ _ =>
    coordinatorId = some lease.identity.coordinatorId ∧ ¬ Outstanding log ∧ ¬ Broken log
  | .released lease =>
    Latest log lease ∧
      (log.getLast? = some (.completed lease.identity) ∨
        (∃ submission, log.getLast? = some (.quiesced (.submitted submission)) ∧
          submission.lease = lease) ∨
        log.getLast? = some (.refused lease.identity) ∧ .submitted lease.identity ∉ log)
  | .discarded lease =>
    coordinatorId = some lease.identity.coordinatorId → .submitted lease.identity ∉ log
  | _ => True

variable {log : List Note} {note : Note} {lease : PresentationLease}

theorem outstanding_snoc :
    Outstanding (log ++ [note]) ↔
      note.isPresented = true ∨ note.settles = false ∧ Outstanding log :=
  since_snoc

theorem broken_snoc :
    Broken (log ++ [note]) ↔ note.breaks = true ∨ note.isQuiesced = false ∧ Broken log :=
  since_snoc

theorem latest_snoc :
    Latest (log ++ [note]) lease ↔
      (∃ nowNs queued remaining, note = .presented nowNs lease queued remaining) ∨
        note.isPresented = false ∧ Latest log lease :=
  since_snoc

theorem Latest.presented (hlatest : Latest log lease) : Presented log lease := by
  obtain ⟨_, _, _, rfl, ⟨nowNs, queued, remaining, rfl⟩, -⟩ := hlatest
  exact ⟨nowNs, queued, remaining, mem_append_right _ mem_cons_self⟩

theorem Presented.snoc (hpres : Presented log lease) : Presented (log ++ [note]) lease := by
  obtain ⟨nowNs, queued, remaining, hmem⟩ := hpres
  exact ⟨nowNs, queued, remaining, mem_append_left _ hmem⟩

theorem presented_snoc (hnote : note.isPresented = false) :
    Presented (log ++ [note]) lease ↔ Presented log lease := by
  refine ⟨?_, Presented.snoc⟩
  rintro ⟨nowNs, queued, remaining, hmem⟩
  rw [mem_append, mem_singleton] at hmem
  rcases hmem with hmem | rfl
  · exact ⟨nowNs, queued, remaining, hmem⟩
  · cases hnote

/-! ## The presentation in flight -/

/-- What the presentation in flight says about the log. -/
def Flight (log : List Note) : Option InFlightPresentation → Prop
  | none => ¬ Outstanding log ∧ ¬ Broken log
  | some (.submitted submission) => Latest log submission.lease ∧ ¬ Broken log
  | some (.requiresQuiescence _) => False
  | some (.unproven _) | some .handoffInProgress => True

theorem outstanding_snoc_of_passive (hnote : note.passive = true) :
    Outstanding (log ++ [note]) ↔ Outstanding log := by
  rw [outstanding_snoc]
  cases note <;> simp_all [passive]

theorem broken_snoc_of_passive (hnote : note.passive = true) :
    Broken (log ++ [note]) ↔ Broken log := by
  rw [broken_snoc]
  cases note <;> simp_all [passive, settles, isQuiesced]

theorem Latest.snoc (hlatest : Latest log lease) (hnote : note.isPresented = false) :
    Latest (log ++ [note]) lease :=
  latest_snoc.2 (.inr ⟨hnote, hlatest⟩)

theorem isPresented_of_passive (hnote : note.passive = true) : note.isPresented = false := by
  cases note <;> first | rfl | cases hnote

theorem Flight.snoc {inFlight : Option InFlightPresentation} (hflight : Flight log inFlight)
    (hnote : note.passive = true) : Flight (log ++ [note]) inFlight := by
  rcases inFlight with _ | submission | submission | lease | _
  · exact ⟨(outstanding_snoc_of_passive hnote).not.2 hflight.1,
      (broken_snoc_of_passive hnote).not.2 hflight.2⟩
  · exact ⟨hflight.1.snoc (isPresented_of_passive hnote),
      (broken_snoc_of_passive hnote).not.2 hflight.2⟩
  · exact hflight.elim
  · trivial
  · trivial

/-- A presentation that is settled is no longer outstanding. -/
theorem flight_none_of_settles (hnote : note.settles = true) (hbroken : ¬ Broken log) :
    Flight (log ++ [note]) none := by
  constructor
  · rw [outstanding_snoc]
    cases note <;> simp_all [settles, isPresented]
  · rw [broken_snoc]
    cases note <;> simp_all [settles, breaks]

theorem flight_none_of_quiesced {inFlight : InFlightPresentation} :
    Flight (log ++ [.quiesced inFlight]) none := by
  constructor
  · rw [outstanding_snoc]
    simp [settles, isPresented]
  · rw [broken_snoc]
    simp [breaks, isQuiesced]

/-! ## The tokens at large -/

def Token.isSubmission : Token → Bool
  | .submission _ => true
  | _ => false

/-- The lease is one of the coordinator with this id. -/
def PresentationLease.Of (lease : PresentationLease) (coordinatorId : Option UInt64) : Prop :=
  coordinatorId = some lease.identity.coordinatorId

/-- What the tokens at large say about the log, for the leases of one coordinator. -/
structure Ledger (coordinatorId nextLeaseId : Option UInt64) (tokens : List Token)
    (log : List Note) : Prop where
  own : ∀ lease, Presented log lease → lease.Of coordinatorId
  fresh : ∀ lease, Presented log lease → ∀ next ∈ nextLeaseId, lease.identity.leaseId < next
  unique : ∀ a b, Presented log a → Presented log b → a.identity = b.identity → a = b
  issued : ∀ token ∈ tokens, token.lease.Of coordinatorId → Presented log token.lease
  apart : (tokens.map Token.lease).Pairwise fun a b =>
    a.Of coordinatorId → a.identity ≠ b.identity
  submitted : ∀ identity, Note.submitted identity ∈ log →
    coordinatorId = some identity.coordinatorId →
    ∃ lease, Presented log lease ∧ lease.identity = identity
  untouched : ∀ token ∈ tokens, token.isSubmission = false → token.lease.Of coordinatorId →
    Note.submitted token.lease.identity ∉ log

def Note.isSubmitted : Note → Bool
  | .submitted _ => true
  | _ => false

section Ledger

variable {coordinatorId nextLeaseId : Option UInt64} {tokens : List Token}

theorem mem_submitted_snoc (hnote : note.isSubmitted = false)
    {identity : PresentationLeaseIdentity} :
    submitted identity ∈ log ++ [note] ↔ submitted identity ∈ log := by
  rw [mem_append, mem_singleton]
  constructor
  · rintro (hmem | rfl)
    · exact hmem
    · cases hnote
  · exact .inl

section

variable (hled : Ledger coordinatorId nextLeaseId tokens log)

include hled

/-- An entry that neither presents nor submits. -/
theorem Ledger.snoc
    (hpres : note.isPresented = false) (hsubmitted : note.isSubmitted = false) :
    Ledger coordinatorId nextLeaseId tokens (log ++ [note]) where
  own lease h := hled.own lease ((presented_snoc hpres).1 h)
  fresh lease h := hled.fresh lease ((presented_snoc hpres).1 h)
  unique a b ha hb :=
    hled.unique a b ((presented_snoc hpres).1 ha) ((presented_snoc hpres).1 hb)
  issued token hmem hown := (hled.issued token hmem hown).snoc
  apart := hled.apart
  submitted identity hmem hid := by
    obtain ⟨lease, hlease, hident⟩ :=
      hled.submitted identity ((mem_submitted_snoc hsubmitted).1 hmem) hid
    exact ⟨lease, hlease.snoc, hident⟩
  untouched token hmem hkind hown :=
    (mem_submitted_snoc hsubmitted).not.2 (hled.untouched token hmem hkind hown)

/-- Tokens are dropped or returned. -/
theorem Ledger.shrink
    {remaining : List Token} (hremaining : remaining.Sublist tokens) :
    Ledger coordinatorId nextLeaseId remaining log :=
  { hled with
    issued := fun token hmem => hled.issued token (hremaining.subset hmem)
    apart := hled.apart.sublist (hremaining.map _)
    untouched := fun token hmem => hled.untouched token (hremaining.subset hmem) }

end

/-- A lease id is used up. -/
theorem Ledger.skip {leaseId : UInt64} (hled : Ledger coordinatorId (some leaseId) tokens log) :
    Ledger coordinatorId (checkedAdd leaseId 1) tokens log :=
  { hled with
    fresh := by
      intro lease hpres next hnext
      have hlt := hled.fresh lease hpres leaseId rfl
      rw [Option.mem_def, checkedAdd_eq_some] at hnext
      rw [lt_iff_toNat_lt] at hlt ⊢
      omega }

variable {idx : Nat} {token : Token}

/-- A token changes its kind. -/
theorem map_lease_set (htok : tokens[idx]? = some token) (changed : Token)
    (hlease : changed.lease = token.lease) :
    (tokens.set idx changed).map Token.lease = tokens.map Token.lease := by
  rw [map_set, hlease]
  apply ext_getElem?
  intro place
  rw [getElem?_set]
  split_ifs with hplace hlt
  · subst hplace
    rw [getElem?_map, htok]
    rfl
  · rw [getElem?_eq_none (by omega)]
  · rfl

section

variable (hled : Ledger coordinatorId nextLeaseId tokens log)

include hled

/-- A guard becomes a failure or a submission. -/
theorem Ledger.change (htok : tokens[idx]? = some (.guard lease)) (changed : Token)
    (hlease : changed.lease = lease) :
    Ledger coordinatorId nextLeaseId (tokens.set idx changed) log := by
  subst hlease
  have hguard := mem_of_getElem? htok
  refine
    { hled with
      issued := ?_
      apart := ?_
      untouched := ?_ }
  · intro token hmem
    rcases mem_or_eq_of_mem_set hmem with hmem | rfl
    · exact hled.issued token hmem
    · exact hled.issued (.guard _) hguard
  · rw [map_lease_set htok changed rfl]
    exact hled.apart
  · intro token hmem hkind
    rcases mem_or_eq_of_mem_set hmem with hmem | rfl
    · exact hled.untouched token hmem hkind
    · exact hled.untouched (.guard _) hguard rfl

/-- The other tokens are not of the same lease. -/
theorem Ledger.identity_ne {i j : Nat} {a b : Token} (ha : tokens[i]? = some a)
    (hb : tokens[j]? = some b) (hij : i ≠ j) (hown : b.lease.Of coordinatorId) :
    a.lease.identity ≠ b.lease.identity := by
  obtain ⟨hi, rfl⟩ := List.getElem?_eq_some_iff.1 ha
  obtain ⟨hj, rfl⟩ := List.getElem?_eq_some_iff.1 hb
  have hapart := List.pairwise_iff_getElem.1 hled.apart
  intro heq
  have hown' : tokens[i].lease.Of coordinatorId := by
    unfold PresentationLease.Of at ⊢
    rw [heq]
    exact hown
  rcases Nat.lt_or_gt_of_ne hij with hlt | hlt
  · have hne := hapart i j (by simpa using hi) (by simpa using hj) hlt
    simp only [List.getElem_map] at hne
    exact hne hown' heq
  · have hne := hapart j i (by simpa using hj) (by simpa using hi) hlt
    simp only [List.getElem_map] at hne
    exact hne hown heq.symm

/-- A guard becomes a submission. -/
theorem Ledger.submit (htok : tokens[idx]? = some (.guard lease))
    (submitNs queueDepthAfterSubmit : UInt64) :
    Ledger coordinatorId nextLeaseId
      (tokens.set idx (.submission ⟨lease, submitNs, queueDepthAfterSubmit⟩))
      (log ++ [.submitted lease.identity]) := by
  have hguard := mem_of_getElem? htok
  have hpres : ∀ other, Presented (log ++ [.submitted lease.identity]) other ↔
      Presented log other := fun other => presented_snoc rfl
  have hchanged := hled.change htok (.submission ⟨lease, submitNs, queueDepthAfterSubmit⟩) rfl
  constructor
  · exact fun other h => hled.own other ((hpres other).1 h)
  · exact fun other h => hled.fresh other ((hpres other).1 h)
  · exact fun a b ha hb => hled.unique a b ((hpres a).1 ha) ((hpres b).1 hb)
  · exact fun token hmem hown => (hchanged.issued token hmem hown).snoc
  · exact hchanged.apart
  · intro identity hmem hid
    rw [mem_append, mem_singleton] at hmem
    rcases hmem with hmem | heq
    · obtain ⟨other, hoth, hident⟩ := hled.submitted identity hmem hid
      exact ⟨other, hoth.snoc, hident⟩
    · cases heq
      exact ⟨lease, (hled.issued (.guard lease) hguard hid).snoc, rfl⟩
  · intro token hmem hkind hown
    obtain ⟨place, hplace⟩ := getElem?_of_mem hmem
    by_cases hsame : idx = place
    · subst hsame
      rw [List.getElem?_set_self (List.getElem?_eq_some_iff.1 htok).1, Option.some.injEq] at hplace
      subst hplace
      cases hkind
    · rw [getElem?_set_ne hsame] at hplace
      have hne := hled.identity_ne htok hplace hsame hown
      rw [mem_append, mem_singleton, not_or]
      refine ⟨hled.untouched token (mem_of_getElem? hplace) hkind hown, ?_⟩
      rintro heq
      exact hne (submitted.inj heq).symm

/-- A token of another coordinator arrives. -/
theorem Ledger.receive (hforeign : ¬ token.lease.Of coordinatorId) :
    Ledger coordinatorId nextLeaseId (tokens ++ [token]) log := by
  refine
    { hled with
      issued := ?_
      apart := ?_
      untouched := ?_ }
  · rw [forall_mem_append, forall_mem_singleton]
    exact ⟨hled.issued, fun hown => absurd hown hforeign⟩
  · rw [map_append, pairwise_append]
    refine ⟨hled.apart, pairwise_singleton _ _, ?_⟩
    intro a ha b hb hown heq
    rw [map_singleton, mem_singleton] at hb
    subst hb
    refine hforeign ?_
    unfold PresentationLease.Of at ⊢
    rw [← heq]
    exact hown
  · rw [forall_mem_append, forall_mem_singleton]
    exact ⟨hled.untouched, fun _ hown => absurd hown hforeign⟩

/-- A new lease is handed over. -/
theorem Ledger.present {nowNs : UInt64} {queued remaining : List PresentableFrame}
    (hid : lease.Of coordinatorId) (hnext : nextLeaseId = some lease.identity.leaseId) :
    Ledger coordinatorId (checkedAdd lease.identity.leaseId 1) (tokens ++ [.guard lease])
      (log ++ [.presented nowNs lease queued remaining]) := by
  have hnew : ∀ other, Presented log other → other.identity ≠ lease.identity := by
    intro other hoth heq
    have hlt := hled.fresh other hoth lease.identity.leaseId hnext
    rw [heq] at hlt
    exact UInt64.lt_irrefl _ hlt
  have hpres : ∀ other, Presented (log ++ [.presented nowNs lease queued remaining]) other →
      other = lease ∨ Presented log other := by
    rintro other ⟨nowNs', queued', remaining', hmem⟩
    rw [mem_append, mem_singleton] at hmem
    rcases hmem with hmem | heq
    · exact .inr ⟨nowNs', queued', remaining', hmem⟩
    · cases heq
      exact .inl rfl
  have hlease : Presented (log ++ [.presented nowNs lease queued remaining]) lease :=
    ⟨nowNs, queued, remaining, mem_append_right _ (mem_singleton_self _)⟩
  constructor
  · intro other hoth
    rcases hpres other hoth with rfl | hbef
    · exact hid
    · exact hled.own other hbef
  · intro other hoth next hnext'
    rw [Option.mem_def, checkedAdd_eq_some, toNat_one] at hnext'
    rw [lt_iff_toNat_lt]
    rcases hpres other hoth with rfl | hbef
    · omega
    have hlt := hled.fresh other hbef lease.identity.leaseId hnext
    rw [lt_iff_toNat_lt] at hlt
    omega
  · intro a b ha hb heq
    rcases hpres a ha with hla | hpa
    · rcases hpres b hb with hlb | hpb
      · rw [hla, hlb]
      · exact absurd (hla ▸ heq.symm) (hnew b hpb)
    · rcases hpres b hb with hlb | hpb
      · exact absurd (hlb ▸ heq) (hnew a hpa)
      · exact hled.unique a b hpa hpb heq
  · rw [forall_mem_append, forall_mem_singleton]
    exact ⟨fun token hmem hown => (hled.issued token hmem hown).snoc, fun _ => hlease⟩
  · rw [map_append, pairwise_append]
    refine ⟨hled.apart, pairwise_singleton _ _, ?_⟩
    intro a ha b hb hown
    obtain ⟨token, hmem, rfl⟩ := mem_map.1 ha
    rw [map_singleton, mem_singleton] at hb
    subst hb
    exact hnew _ (hled.issued token hmem hown)
  · intro identity hmem hid'
    obtain ⟨other, hoth, hident⟩ :=
      hled.submitted identity ((mem_submitted_snoc rfl).1 hmem) hid'
    exact ⟨other, hoth.snoc, hident⟩
  · intro token hmem hkind hown
    rw [mem_submitted_snoc rfl]
    rw [mem_append, mem_singleton] at hmem
    rcases hmem with hmem | rfl
    · exact hled.untouched token hmem hkind hown
    intro hsubmitted
    obtain ⟨other, hoth, hident⟩ := hled.submitted _ hsubmitted hown
    exact hnew other hoth hident

end

end Ledger

/-! ## The world -/

structure Custody (coordinatorId : Option UInt64) (world : PresentationWorld) : Prop where
  id : world.coordinator.coordinatorId = coordinatorId
  throughout : Throughout (Guarded coordinatorId) world.log
  ledger : Ledger coordinatorId world.coordinator.nextLeaseId world.tokens world.log
  flight : Flight world.log world.coordinator.inFlight

variable {coordinatorId : Option UInt64} {world : PresentationWorld}

theorem custody_start :
    Custody coordinatorId (start coordinatorId) where
  id := rfl
  throughout := throughout_nil
  ledger :=
    { own := fun _ ⟨_, _, _, h⟩ => absurd h not_mem_nil
      fresh := fun _ ⟨_, _, _, h⟩ => absurd h not_mem_nil
      unique := fun _ _ ⟨_, _, _, h⟩ => absurd h not_mem_nil
      issued := fun _ h => absurd h not_mem_nil
      apart := List.Pairwise.nil
      submitted := nofun
      untouched := fun _ h => absurd h not_mem_nil }
  flight := ⟨not_since_nil, not_since_nil⟩

/-- The lease is in the hands of the renderer. -/
structure Handing (coordinatorId : Option UInt64) (lease : PresentationLease)
    (world : PresentationWorld) : Prop where
  custody : Custody coordinatorId world
  latest : Latest world.log lease
  whole : ¬ Broken world.log
  handoff : world.coordinator.inFlight = some .handoffInProgress

/-- What a move of the renderer does. -/
structure Moves (coordinatorId : Option UInt64) (world after : PresentationWorld) : Prop where
  coordinator : after.coordinator = world.coordinator
  custody : Custody coordinatorId after
  log : after.log = world.log ∨ ∃ note, note.passive = true ∧ after.log = world.log ++ [note]

section

variable (hcustody : Custody coordinatorId world)

include hcustody

theorem Custody.retoken {tokens : List Token}
    (hled : Ledger coordinatorId world.coordinator.nextLeaseId tokens world.log) :
    Moves coordinatorId world { world with tokens := tokens } :=
  ⟨rfl, { hcustody with ledger := hled }, .inl rfl⟩

theorem Custody.stays : Moves coordinatorId world world :=
  ⟨rfl, hcustody, .inl rfl⟩

theorem Custody.move (move : RendererMove) :
    Moves coordinatorId world (world.move move) := by
  cases move with
  | submitGuard idx submitNs queueDepthAfterSubmit loads =>
    simp only [PresentationWorld.move]
    split
    · rename_i lease htok
      split
      · exact hcustody.retoken (hcustody.ledger.change htok _ rfl)
      refine ⟨rfl, ⟨hcustody.id, ?_, ?_, ?_⟩, .inr ⟨.submitted lease.identity, rfl, rfl⟩⟩
      · exact throughout_snoc.2 ⟨hcustody.throughout, trivial⟩
      · exact hcustody.ledger.submit htok submitNs queueDepthAfterSubmit
      · exact hcustody.flight.snoc rfl
    · exact hcustody.stays
  | rejectGuard idx e =>
    simp only [PresentationWorld.move]
    split
    · rename_i lease htok
      exact hcustody.retoken (hcustody.ledger.change htok _ rfl)
    · exact hcustody.stays
  | dropToken idx =>
    have hshrunk := hcustody.ledger.shrink (eraseIdx_sublist world.tokens idx)
    simp only [PresentationWorld.move]
    split
    · rename_i failure htok
      refine ⟨rfl, ⟨hcustody.id, ?_, ?_, ?_⟩, .inr ⟨.discarded failure.lease, rfl, rfl⟩⟩
      · refine throughout_snoc.2 ⟨hcustody.throughout, ?_⟩
        exact hcustody.ledger.untouched _ (mem_of_getElem? htok) rfl
      · exact hshrunk.snoc rfl rfl
      · exact hcustody.flight.snoc rfl
    · exact hcustody.retoken hshrunk
    · exact hcustody.stays
  | receive token =>
    simp only [PresentationWorld.move]
    split_ifs with hown
    · exact hcustody.stays
    · exact hcustody.retoken (hcustody.ledger.receive (hcustody.id ▸ hown))

end

variable {lease : PresentationLease} (hhand : Handing coordinatorId lease world)

include hhand in
theorem Handing.move (move : RendererMove) :
    Handing coordinatorId lease (world.move move) := by
  obtain ⟨hcoordinator, hcustody, hlog⟩ := hhand.custody.move move
  refine ⟨hcustody, ?_, ?_, by rw [hcoordinator]; exact hhand.handoff⟩
  · rcases hlog with heq | ⟨note, hnote, heq⟩
    · rw [heq]
      exact hhand.latest
    · rw [heq]
      exact hhand.latest.snoc (isPresented_of_passive hnote)
  · rcases hlog with heq | ⟨_, hnote, heq⟩
    · rw [heq]
      exact hhand.whole
    · rw [heq]
      exact (broken_snoc_of_passive hnote).not.2 hhand.whole

include hhand in
theorem Handing.moves (moves : List RendererMove) :
    Handing coordinatorId lease (moves.foldl PresentationWorld.move world) := by
  induction moves generalizing world with
  | nil => exact hhand
  | cons move moves ih => exact ih (hhand.move move)

/-- The token that `present` returns was at large, and may be of the lease that it was called
with. -/
def Returnable (lease : PresentationLease) (world : PresentationWorld) (token : Token) : Prop :=
  token.lease.identity = lease.identity → token.lease = lease ∧
    (token.isSubmission = false → Note.submitted lease.identity ∉ world.log)

include hhand in
theorem Handing.returned (outcome : PresentOutcome) :
    Handing coordinatorId lease (world.returned outcome).2 ∧
      ∀ token, (world.returned outcome).1 = some token →
        Returnable lease (world.returned outcome).2 token := by
  have hled := hhand.custody.ledger
  have htaken : ∀ idx token, world.tokens[idx]? = some token →
      Handing coordinatorId lease { world with tokens := world.tokens.eraseIdx idx } ∧
        ∀ other, some token = some other →
          Returnable lease { world with tokens := world.tokens.eraseIdx idx } other := by
    intro idx token htok
    have hshrunk := hled.shrink (eraseIdx_sublist world.tokens idx)
    refine ⟨{ hhand with custody := (hhand.custody.retoken hshrunk).custody }, ?_⟩
    rintro _ ⟨⟩ hident
    have hmem := mem_of_getElem? htok
    have hown : token.lease.Of coordinatorId := by
      unfold PresentationLease.Of
      rw [hident]
      exact hled.own lease hhand.latest.presented
    refine ⟨hled.unique _ _ (hled.issued token hmem hown) hhand.latest.presented
      hident, fun hkind => ?_⟩
    rw [← hident]
    exact hled.untouched token hmem hkind hown
  have hnone : ∀ token, (none : Option Token) = some token → Returnable lease world token := by
    intro token heq
    cases heq
  cases outcome with
  | panicked => exact ⟨hhand, hnone⟩
  | returned idx =>
    simp only [PresentationWorld.returned]
    split
    · rename_i submission htok
      exact htaken idx _ htok
    · rename_i failure htok
      exact htaken idx _ htok
    · exact ⟨hhand, hnone⟩

/-- An entry for which nothing is to be shown. -/
def Note.free : Note → Bool
  | .presented .. | .released _ | .discarded _ | .submitted _ => false
  | _ => true

theorem guarded_of_free (hnote : note.free = true) : Guarded coordinatorId log note := by
  cases note <;> trivial

section

variable (hcustody : Custody coordinatorId world)

include hcustody

variable {coordinator : PresentationCoordinator}

/-- A method of the coordinator that writes one such entry. -/
theorem Custody.finish_one (hnote : note.free = true)
    (hid : coordinator.coordinatorId = world.coordinator.coordinatorId)
    (hnext : coordinator.nextLeaseId = world.coordinator.nextLeaseId)
    (hflight : Flight (world.log ++ [note]) coordinator.inFlight) :
    Custody coordinatorId (world.finish coordinator [note]) where
  id := hid.trans hcustody.id
  throughout := throughout_snoc.2 ⟨hcustody.throughout, guarded_of_free hnote⟩
  ledger := by
    simp only [finish]
    rw [hnext]
    exact hcustody.ledger.snoc (by cases note <;> first | rfl | cases hnote)
      (by cases note <;> first | rfl | cases hnote)
  flight := hflight

/-- A method of the coordinator that writes nothing. -/
theorem Custody.finish_nil (hid : coordinator.coordinatorId = world.coordinator.coordinatorId)
    (hled : Ledger coordinatorId coordinator.nextLeaseId world.tokens world.log)
    (hflight : Flight world.log coordinator.inFlight) :
    Custody coordinatorId (world.finish coordinator []) where
  id := hid.trans hcustody.id
  throughout := by
    simpa only [finish, append_nil] using hcustody.throughout
  ledger := by
    simpa only [finish, append_nil] using hled
  flight := by
    simpa only [finish, append_nil] using hflight

theorem Custody.still :
    Custody coordinatorId (world.finish world.coordinator []) :=
  hcustody.finish_nil rfl hcustody.ledger hcustody.flight

/-- The coordinator releases the lease that `present` was last called with. -/
theorem Custody.release (hlatest : Latest world.log lease)
    (hlast : world.log.getLast? = some (.completed lease.identity) ∨
      (∃ submission, world.log.getLast? = some (.quiesced (.submitted submission)) ∧
        submission.lease = lease) ∨
      world.log.getLast? = some (.refused lease.identity) ∧ submitted lease.identity ∉ world.log) :
    Custody coordinatorId (world.finish world.coordinator [.released lease]) where
  id := hcustody.id
  throughout := throughout_snoc.2 ⟨hcustody.throughout, hlatest, hlast⟩
  ledger := hcustody.ledger.snoc rfl rfl
  flight := hcustody.flight.snoc rfl

end

/-- Two entries of one call. -/
theorem finish_finish (coordinator : PresentationCoordinator)
    (first second : Note) :
    world.finish coordinator [first, second] =
      (world.finish coordinator [first]).finish coordinator [second] := by
  simp only [finish, append_assoc]
  rfl

include hhand in
theorem Handing.settle {token? : Option Token}
    (htok : ∀ token, token? = some token → Returnable lease world token) :
    Custody coordinatorId (world.finish (world.coordinator.settle lease token?).2
      (world.coordinator.settle lease token?).1.2) := by
  have hcustody := hhand.custody
  have hpanicked : Custody coordinatorId (world.finish world.coordinator [.panicked]) := by
    refine hcustody.finish_one rfl rfl rfl ?_
    rw [hhand.handoff]
    trivial
  unfold PresentationCoordinator.settle
  split
  · rename_i submission
    split_ifs with hforeign
    · exact hcustody.finish_one rfl rfl rfl trivial
    obtain ⟨hlease, -⟩ := htok _ rfl (not_not.1 hforeign)
    refine hcustody.finish_nil rfl hcustody.ledger ⟨?_, hhand.whole⟩
    have hlease' : submission.lease = lease := hlease
    rw [hlease']
    exact hhand.latest
  · rename_i failure
    split_ifs with hforeign
    · exact hcustody.finish_one rfl rfl rfl trivial
    obtain ⟨hlease, hunt⟩ := htok _ rfl (not_not.1 hforeign)
    have hlease' : failure.lease = lease := hlease
    have href : Custody coordinatorId (world.finish { world.coordinator with inFlight := none }
        [.refused lease.identity]) :=
      hcustody.finish_one rfl rfl rfl (flight_none_of_settles rfl hhand.whole)
    simp only [hlease', finish_finish]
    refine href.release (hhand.latest.snoc rfl) (.inr (.inr ⟨?_, ?_⟩))
    · simp [finish]
    · exact (mem_submitted_snoc rfl).not.2 (hunt rfl)
  · exact hpanicked
  · exact hpanicked

section

variable (hcustody : Custody coordinatorId world)

include hcustody

theorem Custody.presentNext (nowNs : UInt64) (loads : PresentationCoordinator.HandoffLoads)
    (moves : List RendererMove) (outcome : PresentOutcome) :
    Custody coordinatorId (world.presentNext nowNs loads moves outcome).2 := by
  unfold PresentationWorld.presentNext
  rcases world.coordinator.handOff_cases nowNs loads with
    ⟨res, after, heq, hidles⟩ | ⟨lease, after, heq, hhands⟩
  · rw [heq]
    refine hcustody.finish_nil hidles.coordinatorId ?_ (hidles.inFlight ▸ hcustody.flight)
    rcases hidles.nextLeaseId with hnext | ⟨leaseId, hbef, hnext⟩
    · rw [hnext]
      exact hcustody.ledger
    · rw [hnext]
      exact Ledger.skip (hbef ▸ hcustody.ledger)
  · rw [heq]
    have hflight := hcustody.flight
    rw [hhands.idle] at hflight
    have hown : lease.Of coordinatorId := hcustody.id ▸ hhands.coordinatorId
    have hhand : Handing coordinatorId lease
        { world.finish after
            [.presented nowNs lease world.coordinator.queue.items after.queue.items] with
          tokens := world.tokens ++ [.guard lease] } := by
      rw [hhands.after_eq]
      refine ⟨⟨hcustody.id, ?_, ?_, trivial⟩, latest_snoc.2 (.inl ⟨_, _, _, rfl⟩), ?_, rfl⟩
      · exact throughout_snoc.2 ⟨hcustody.throughout, hown, hflight⟩
      · exact hcustody.ledger.present hown hhands.leaseId
      · exact broken_snoc.not.2 (by simpa [breaks, isQuiesced] using hflight.2)
    obtain ⟨hreturned, htok⟩ := (hhand.moves moves).returned outcome
    exact hreturned.settle htok

theorem Custody.poll (answer : Option (Except PlatformError NativePresentationCompletion)) :
    Custody coordinatorId (world.finish (world.coordinator.pollPresentCompletion answer).2
      (world.coordinator.pollPresentCompletion answer).1.2) := by
  have hstill := hcustody.still
  unfold pollPresentCompletion
  split
  iterate 4 exact hstill
  · rename_i submission hinFlight
    have hflight := hcustody.flight
    rw [hinFlight] at hflight
    split
    iterate 3 exact hstill
    · have hcompl : Custody coordinatorId (world.finish { world.coordinator with inFlight := none }
          [.completed submission.lease.identity]) :=
        hcustody.finish_one rfl rfl rfl (flight_none_of_settles rfl hflight.2)
      simp only [finish_finish]
      refine hcompl.release (hflight.1.snoc rfl) (.inl ?_)
      simp [finish]

variable (answer : Option (Except PlatformError Unit))

theorem Custody.cancel :
    Custody coordinatorId (world.finish (world.coordinator.cancelInFlight answer).2
      (world.coordinator.cancelInFlight answer).1.2) := by
  have hstill := hcustody.still
  unfold cancelInFlight
  split
  · exact hstill
  rename_i inFlight hinFlight
  split
  · exact hstill
  · exact hstill
  have hquiesced : Custody coordinatorId (world.finish { world.coordinator with inFlight := none }
      [.quiesced inFlight]) :=
    hcustody.finish_one rfl rfl rfl flight_none_of_quiesced
  have hflight := hcustody.flight
  rw [hinFlight] at hflight
  cases inFlight with
  | submitted submission =>
    have hrel := hquiesced.release (hflight.1.snoc rfl)
    simpa [finish, InFlightPresentation.releasedByQuiesce] using hrel
  | requiresQuiescence submission => exact hflight.elim
  | unproven lease | handoffInProgress => exact hquiesced

/-- The continuity of the queue is reset. -/
theorem Custody.reset (epoch : Option Epochs) :
    Custody coordinatorId (world.finish { world.coordinator with
      queue := world.coordinator.queue.resetContinuity epoch } [.reset]) :=
  hcustody.finish_one rfl rfl rfl (hcustody.flight.snoc rfl)

theorem Custody.shutdown :
    Custody coordinatorId (world.finish (world.coordinator.shutdown answer).2
      (world.coordinator.shutdown answer).1.2) := by
  have hcancelled := hcustody.cancel answer
  unfold PresentationCoordinator.shutdown
  generalize world.coordinator.cancelInFlight answer = cancelled at hcancelled
  obtain ⟨⟨res, _⟩, _⟩ := cancelled
  rcases res with _ | _ | _
  · exact hcancelled
  · exact hcancelled
  · have hreset := hcancelled.reset none
    simpa only [finish, append_assoc] using hreset

theorem Custody.submit (frame : PresentableFrame) (nowNs : UInt64) (loads : Loads) :
    Custody coordinatorId (world.submit frame nowNs loads).2 := by
  rcases world.submit_cases frame nowNs loads with ⟨-, heq⟩ | heq
  · rw [heq]
    exact hcustody.finish_one rfl rfl rfl (hcustody.flight.snoc rfl)
  · rw [heq]
    exact hcustody.still

theorem Custody.act (call : CoordinatorCall) :
    Custody coordinatorId (world.act call).2 := by
  cases call with
  | submit frame nowNs loads => exact hcustody.submit frame nowNs loads
  | presentNext nowNs loads moves outcome => exact hcustody.presentNext nowNs loads moves outcome
  | pollPresentCompletion answer => exact hcustody.poll answer
  | cancelInFlight answer => exact hcustody.cancel answer
  | shutdown answer => exact hcustody.shutdown answer
  | resetEpochs displayEpoch codecEpoch =>
    have hstill := hcustody.still
    simp only [PresentationWorld.act, resetEpochs]
    split
    · split_ifs
      · exact hstill
      · exact hstill
    · split_ifs
      · exact hstill
      · exact hcustody.reset _
  | drop => exact { hcustody with }

theorem Custody.step (call : PresentationCall) :
    Custody coordinatorId (world.step call).2 := by
  cases call with
  | call call =>
    simp only [PresentationWorld.step]
    split_ifs
    · exact hcustody.act call
    · exact hcustody
  | move move => exact (hcustody.move move).custody

end

/-- In every run, whatever the renderer does, the coordinator releases a surface only when the
renderer is done with it, calls `present` with nothing in flight and never after a broken
contract before a quiescence, and a surface that is dropped elsewhere was never submitted. -/
theorem presentation_keeps_custody (coordinatorId : Option UInt64)
    (calls : List PresentationCall) :
    Throughout (Guarded coordinatorId)
      (presentationMachine.run (start coordinatorId) calls).log :=
  (presentationMachine.run_induction custody_start
    (fun _ call hcustody => hcustody.step call) calls).throughout

/-! ## A failure that is dropped -/

def sampleSurface : EpochBoundSurface where
  surface :=
    { allocation := 0
      descriptor := ⟨1_920, 1_080, 0x3231564E, .d3d11, 7, 7_000⟩
      copyLedger :=
        { sourceLease := ⟨3, 7⟩
          sourceDevice := .named 1
          destinationDevice := .named 1
          sourceLayout := ⟨.d3d11, 0x3231564E, 1, none⟩
          destinationLayout := ⟨.d3d11, 0x3231564E, 1, none⟩
          transferEdge := .decodeToPresenter
          path := .gpuCopy
          synchronization := .d3d11EventQuery
          completion := .proven
          fallbackReason := none
          evidence := .completionProven } }
  displayEpoch := 3

def sampleFrame : PresentableFrame := ⟨sampleSurface, 2, 1, 100, 200, true⟩

def sampleLease : PresentationLease := ⟨⟨1, 1⟩, sampleFrame, sampleFrame.preflight⟩

/-- The provider allows the presentation at every load. -/
def allowed : Loads := ⟨true, true⟩

/-- A renderer rejects its guard, drops the failure and panics.  The surface is released with
none of the three reports of the renderer before it. -/
theorem dropped_failure_releases_its_surface :
    (presentationMachine.run (start (some 1))
      [.call (.submit sampleFrame 120 allowed),
        .call (.presentNext 130 ⟨allowed, allowed, allowed⟩
          [.rejectGuard 0 .deviceLost, .dropToken 0] .panicked)]).log =
      [.accepted sampleFrame, .presented 130 sampleLease [sampleFrame] [],
        .discarded sampleLease, .panicked] := by
  decide

end LatencyDesk.Platform
