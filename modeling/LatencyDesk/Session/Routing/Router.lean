import LatencyDesk.Lib.Machine
import LatencyDesk.Protocol.Candidate
import Mathlib.Data.List.Sort
import Mathlib.Data.Prod.Lex

/-!
# The connection router

The model of `ConnectionRouter` in `crates/session/src/nat.rs`.  A pair is
named by its index in the table, as in `record_check_result`.  A method that
takes `&mut self` returns its result and the router after the call.

The counters of `RouterStats` that the source raises with `+= 1` wrap here,
as they do in a release build.
-/

namespace LatencyDesk.Session.Routing

open Lib Protocol

/-- `MAX_CANDIDATES`. -/
def maxCandidates : Nat := 32

inductive NatError where
  | candidateLimitReached
  | invalidCandidate
  | addressFamilyMismatch
  | noCandidatesAvailable
  | noValidPath
  | pathTimeout
  | directProbeFailed
deriving DecidableEq

inductive CandidatePairState where
  | frozen
  | waiting
  | inProgress
  | succeeded
  | failed
deriving DecidableEq

/-- A local and a remote candidate, and what their checks have shown. -/
structure CandidatePair where
  localCandidate : IceCandidate
  remoteCandidate : IceCandidate
  pairPriority : UInt64
  state : CandidatePairState
  rttNs : Option UInt64
deriving DecidableEq

namespace CandidatePair

def new (localCandidate remoteCandidate : IceCandidate) (isControlling : Bool) : CandidatePair :=
  { localCandidate := localCandidate
    remoteCandidate := remoteCandidate
    pairPriority := computePairPriority localCandidate.priority remoteCandidate.priority
      isControlling
    state := .waiting
    rttNs := none }

def isDirect (pair : CandidatePair) : Bool :=
  pair.localCandidate.candidateType != .relayed && pair.remoteCandidate.candidateType != .relayed

end CandidatePair

def directPath (pair : CandidatePair) : ConnectionPath :=
  .direct pair.localCandidate.ip pair.localCandidate.port pair.remoteCandidate.ip
    pair.remoteCandidate.port pair.pairPriority

structure RouterStats where
  directAttempts : UInt32
  directSuccesses : UInt32
  relayFallbacks : UInt32
  directUpgrades : UInt32
  relayDowngrades : UInt32
  probesSent : UInt32
deriving DecidableEq

structure ConnectionRouter where
  isControlling : Bool
  directCheckTimeoutNs : UInt64
  initialCheckStartedNs : Option UInt64
  probeIntervalNs : UInt64
  lastProbeNs : UInt64
  nextProbeCursor : Nat
  localCandidates : List IceCandidate
  remoteCandidates : List IceCandidate
  pairs : List CandidatePair
  activePath : Option ConnectionPath
  fallbackRelayPath : Option ConnectionPath
  stats : RouterStats
deriving DecidableEq

namespace ConnectionRouter

def new (isControlling : Bool) (directCheckTimeoutNs : UInt64) : ConnectionRouter :=
  { isControlling := isControlling
    directCheckTimeoutNs := directCheckTimeoutNs
    initialCheckStartedNs := none
    probeIntervalNs := 500_000_000
    lastProbeNs := 0
    nextProbeCursor := 0
    localCandidates := []
    remoteCandidates := []
    pairs := []
    activePath := none
    fallbackRelayPath := none
    stats :=
      { directAttempts := 0, directSuccesses := 0, relayFallbacks := 0, directUpgrades := 0
        relayDowngrades := 0, probesSent := 0 } }

/-- The pairs of `set_candidates`, highest priority first.  The sort is stable. -/
def makePairs (isControlling : Bool) (locals remotes : List IceCandidate) : List CandidatePair :=
  let pairs := locals.flatMap fun loc =>
    (remotes.filter fun rem =>
        loc.transport == rem.transport && loc.component == rem.component).map
      fun rem => CandidatePair.new loc rem isControlling
  pairs.insertionSort fun a b => b.pairPriority ≤ a.pairPriority

/-- The relay path of the first relayed local candidate. -/
def makeRelayPath (locals : List IceCandidate) (relaySessionId : UInt64)
    (remotePeerId : Bytes 16) : Option ConnectionPath :=
  (locals.find? fun candidate =>
      candidate.candidateType == .relayed && decide (candidate.validate = .ok ()) &&
        relaySessionId != 0 && remotePeerId != List.Vector.replicate 16 0).map
    fun candidate => .relay relaySessionId candidate.relayProvider remotePeerId

/-- Replaces the candidates and their pairs. -/
def setCandidates (r : ConnectionRouter) (locals remotes : List IceCandidate)
    (relaySessionId : UInt64) (remotePeerId : Bytes 16) :
    Except NatError Unit × ConnectionRouter :=
  if locals.isEmpty ∨ remotes.isEmpty then
    (.error .noCandidatesAvailable, r)
  else if maxCandidates < locals.length ∨ maxCandidates < remotes.length then
    (.error .candidateLimitReached, r)
  else if (locals ++ remotes).any fun candidate => decide (candidate.validate ≠ .ok ()) then
    (.error .invalidCandidate, r)
  else
    (.ok (),
      { r with
        localCandidates := locals
        remoteCandidates := remotes
        initialCheckStartedNs := none
        lastProbeNs := 0
        nextProbeCursor := 0
        activePath := none
        pairs := makePairs r.isControlling locals remotes
        fallbackRelayPath := makeRelayPath locals relaySessionId remotePeerId })

def isUsingRelay (r : ConnectionRouter) : Bool :=
  match r.activePath with
  | some (.relay _ _ _) => true
  | _ => false

/-- The table with the state of one pair replaced. -/
def setPairState (pairs : List CandidatePair) (index : Nat) (state : CandidatePairState) :
    List CandidatePair :=
  pairs.modify index fun pair => { pair with state := state }

/-- The first direct pair in the state, with its index. -/
def findDirect (pairs : List CandidatePair) (state : CandidatePairState) :
    Option (CandidatePair × Nat) :=
  pairs.zipIdx.find? fun entry => entry.1.isDirect && entry.1.state == state

/-- The third part of `select_initial_path`: direct checks are over. -/
def fallBack (r : ConnectionRouter) : Except NatError ConnectionPath × ConnectionRouter :=
  let pairs := r.pairs.map fun pair =>
    if pair.isDirect && pair.state == .inProgress then { pair with state := .failed } else pair
  match r.fallbackRelayPath with
  | some relayPath =>
    (.ok relayPath,
      { r with
        pairs := pairs
        activePath := some relayPath
        stats := { r.stats with relayFallbacks := saturatingAdd32 r.stats.relayFallbacks 1 } })
  | none => (.error .noValidPath, { r with pairs := pairs })

/-- The second part of `select_initial_path`: no direct pair has succeeded. -/
def checkDirect (r : ConnectionRouter) (nowNs : UInt64) :
    Except NatError ConnectionPath × ConnectionRouter :=
  let startedNs := r.initialCheckStartedNs.getD nowNs
  let r : ConnectionRouter := { r with initialCheckStartedNs := some startedNs }
  if saturatingSub nowNs startedNs < r.directCheckTimeoutNs then
    match findDirect r.pairs .waiting with
    | some (pair, index) =>
      (.ok (directPath pair),
        { r with
          pairs := setPairState r.pairs index .inProgress
          stats := { r.stats with directAttempts := saturatingAdd32 r.stats.directAttempts 1 } })
    | none =>
      match findDirect r.pairs .inProgress with
      | some (pair, _) => (.ok (directPath pair), r)
      | none => r.fallBack
  else
    r.fallBack

/-- The first path, relayed after a timeout. -/
def selectInitialPath (r : ConnectionRouter) (nowNs : UInt64) :
    Except NatError ConnectionPath × ConnectionRouter :=
  match r.activePath with
  | some path => (.ok path, r)
  | none =>
    match findDirect r.pairs .succeeded with
    | some (pair, _) =>
      (.ok (directPath pair),
        { r with
          activePath := some (directPath pair)
          stats := { r.stats with directSuccesses := r.stats.directSuccesses + 1 } })
    | none => r.checkDirect nowNs

/-- `record_check_result` for a check that succeeded. -/
def recordSuccess (r : ConnectionRouter) (pairIdx : Nat) (pair : CandidatePair) (rttNs : UInt64) :
    Option ConnectionPath × ConnectionRouter :=
  let pairs := r.pairs.modify pairIdx fun pair =>
    { pair with state := .succeeded, rttNs := some rttNs }
  if pair.isDirect && r.isUsingRelay then
    (some (directPath pair),
      { r with
        pairs := pairs
        activePath := some (directPath pair)
        stats := { r.stats with directUpgrades := r.stats.directUpgrades + 1 } })
  else
    (r.activePath, { r with pairs := pairs })

/-- `record_check_result` for a check that failed.  The active path is
compared by its priority. -/
def recordFailure (r : ConnectionRouter) (pairIdx : Nat) (pair : CandidatePair) :
    Option ConnectionPath × ConnectionRouter :=
  let r : ConnectionRouter := { r with pairs := setPairState r.pairs pairIdx .failed }
  match r.activePath, r.fallbackRelayPath with
  | some (.direct _ _ _ _ pairPriority), some relay =>
    if pair.pairPriority = pairPriority then
      (some relay,
        { r with
          activePath := some relay
          stats := { r.stats with relayDowngrades := r.stats.relayDowngrades + 1 } })
    else
      (r.activePath, r)
  | _, _ => (r.activePath, r)

/-- A check may move the path. -/
def recordCheckResult (r : ConnectionRouter) (pairIdx : Nat) (success : Bool) (rttNs : UInt64) :
    Option ConnectionPath × ConnectionRouter :=
  match r.pairs[pairIdx]? with
  | none => (none, r)
  | some pair =>
    if success then r.recordSuccess pairIdx pair rttNs else r.recordFailure pairIdx pair

/-- A direct pair that a background probe may check. -/
def probeable (pair : CandidatePair) : Bool :=
  pair.isDirect && pair.state != .succeeded && pair.state != .inProgress

/-- The index of the next pair to probe, starting at the cursor. -/
def nextProbe (pairs : List CandidatePair) (cursor : Nat) : Option Nat :=
  ((List.range pairs.length).map fun offset => (cursor + offset) % pairs.length).find?
    fun index => (pairs[index]?).any probeable

/-- Probes direct pairs behind a relay. -/
def tickBackgroundProbing (r : ConnectionRouter) (nowNs : UInt64) :
    Option CandidatePair × ConnectionRouter :=
  if r.isUsingRelay = false then
    (none, r)
  else if saturatingSub nowNs r.lastProbeNs < r.probeIntervalNs then
    (none, r)
  else
    match nextProbe r.pairs r.nextProbeCursor with
    | none => (none, r)
    | some index =>
      ((setPairState r.pairs index .inProgress)[index]?,
        { r with
          pairs := setPairState r.pairs index .inProgress
          nextProbeCursor := (index + 1) % r.pairs.length
          lastProbeNs := nowNs
          stats := { r.stats with probesSent := saturatingAdd32 r.stats.probesSent 1 } })

end ConnectionRouter

/-! ## The machine -/

/-- A call of a method that takes `&mut self`.  `record_check_result` does not
read its time. -/
inductive RouterCall where
  | setCandidates (locals remotes : List IceCandidate) (relaySessionId : UInt64)
      (remotePeerId : Bytes 16)
  | selectInitialPath (nowNs : UInt64)
  | recordCheckResult (pairIdx : Nat) (success : Bool) (rttNs : UInt64)
  | tickBackgroundProbing (nowNs : UInt64)

/-- A call with the result it returned. -/
inductive RouterEvent where
  | setCandidates (result : Except NatError Unit)
  | selectInitialPath (nowNs : UInt64) (result : Except NatError ConnectionPath)
  | recordCheckResult (pairIdx : Nat) (success : Bool) (rttNs : UInt64)
      (result : Option ConnectionPath)
  | tickBackgroundProbing (nowNs : UInt64) (result : Option CandidatePair)
deriving DecidableEq

/-- The router as a machine over its calls. -/
def routerMachine : Machine ConnectionRouter RouterCall RouterEvent where
  step r
    | .setCandidates locals remotes relaySessionId remotePeerId =>
      record .setCandidates (r.setCandidates locals remotes relaySessionId remotePeerId)
    | .selectInitialPath nowNs => record (.selectInitialPath nowNs) (r.selectInitialPath nowNs)
    | .recordCheckResult pairIdx success rttNs =>
      record (.recordCheckResult pairIdx success rttNs) (r.recordCheckResult pairIdx success rttNs)
    | .tickBackgroundProbing nowNs =>
      record (.tickBackgroundProbing nowNs) (r.tickBackgroundProbing nowNs)

/-! ## A sample run without a relay -/

/-- A host candidate of the test helper `candidates`. -/
def sampleHost (last : UInt8) : IceCandidate :=
  { foundation := ⟨[0, 0, 0, 0, 0, 0, 0, 1], rfl⟩
    component := 1
    transport := .udp
    priority := 2113954047
    candidateType := .host
    relayProvider := .none
    ip := .v4 ⟨[10, 0, 0, last], rfl⟩
    port := 5000
    relatedAddress := none }

/-- One pair is checked, succeeds, becomes the active path and then fails. -/
def sampleRouterCalls : List RouterCall :=
  [.setCandidates [sampleHost 1] [sampleHost 2] 7 (List.Vector.replicate 16 9),
    .selectInitialPath 1000, .recordCheckResult 0 true 40, .selectInitialPath 1050]

/-! ## The order of the pairs -/

/-- The order of the pairs, from the priorities of the controlling and of the controlled side: by
the smaller one, then by the larger one, then by the side that has it. -/
def pairRank (g d : UInt32) : Nat ×ₗ Nat ×ₗ Nat :=
  toLex (min g.toNat d.toNat, toLex (max g.toNat d.toNat, if d < g then 1 else 0))

/-- What a pair priority adds to the smaller priority. -/
def pairOffset (g d : UInt32) : Nat := 2 * max g.toNat d.toNat + if d < g then 1 else 0

/-- The number that RFC 8445 gives to the pair. -/
def exactPriority (g d : UInt32) : Nat := 2 ^ 32 * min g.toNat d.toNat + pairOffset g d

/-- The first pair has the smaller minimum, by one, and makes up for it with its larger side. -/
def Overtakes (g d g' d' : UInt32) : Prop :=
  min g.toNat d.toNat + 1 = min g'.toNat d'.toNat ∧ 2 ^ 32 + pairOffset g' d' ≤ pairOffset g d

/-- Only a pair of two highest priorities does not fit into 64 bits. -/
theorem toNat_computePairPriority {g d : UInt32} :
    (computePairPriority g d true).toNat = exactPriority g d ↔
      min g.toNat d.toNat < 2 ^ 32 - 1 := by
  have hg := g.toNat_lt
  have hd := d.toNat_lt
  have hlt := (computePairPriority g d true).toNat_lt
  constructor
  · intro h
    rw [h, exactPriority, pairOffset] at hlt
    omega
  · intro h
    have hshift : ((1 : UInt64) <<< 32).toNat = 2 ^ 32 := rfl
    simp only [exactPriority, pairOffset, computePairPriority, if_true,
      UInt64.lt_iff_toNat_lt, UInt32.lt_iff_toNat_lt, UInt32.toNat_toUInt64]
    split_ifs <;> simp <;> omega

theorem pairOffset_lt (g d : UInt32) : pairOffset g d < 2 ^ 33 := by
  have hg := g.toNat_lt
  have hd := d.toNat_lt
  unfold pairOffset
  split_ifs <;> omega

/-- The rank is the order of the minima and then of the offsets. -/
theorem pairRank_le_iff {g d g' d' : UInt32} : pairRank g d ≤ pairRank g' d' ↔
    min g.toNat d.toNat < min g'.toNat d'.toNat ∨
      min g.toNat d.toNat = min g'.toNat d'.toNat ∧ pairOffset g d ≤ pairOffset g' d' := by
  unfold pairRank pairOffset
  rw [Prod.Lex.toLex_le_toLex, Prod.Lex.toLex_le_toLex]
  split_ifs <;> omega

open CandidatePair

/-- The priorities of two pairs are exact, the same for both agents and in the order of the ranks
if and only if no pair has the highest priority twice and none overtakes the other. -/
theorem pair_priority_orders_pairs_iff (loc rem loc' rem' : IceCandidate) :
    let pair := new loc rem true
    let pair' := new loc' rem' true
    let rank := pairRank loc.priority rem.priority
    let rank' := pairRank loc'.priority rem'.priority
    ((pair.pairPriority.toNat = exactPriority loc.priority rem.priority ∧
          pair'.pairPriority.toNat = exactPriority loc'.priority rem'.priority) ∧
        ((new rem loc false).pairPriority = pair.pairPriority ∧
          (new rem' loc' false).pairPriority = pair'.pairPriority) ∧
        (pair.pairPriority ≤ pair'.pairPriority ↔ rank ≤ rank') ∧
        (pair'.pairPriority ≤ pair.pairPriority ↔ rank' ≤ rank)) ↔
      (min loc.priority.toNat rem.priority.toNat < 2 ^ 32 - 1 ∧
        min loc'.priority.toNat rem'.priority.toNat < 2 ^ 32 - 1) ∧
      ¬Overtakes loc.priority rem.priority loc'.priority rem'.priority ∧
      ¬Overtakes loc'.priority rem'.priority loc.priority rem.priority := by
  intro pair pair' rank rank'
  rw [show pair.pairPriority.toNat = _ ↔ _ from toNat_computePairPriority,
    show pair'.pairPriority.toNat = _ ↔ _ from toNat_computePairPriority]
  refine and_congr_right fun hfits => ?_
  have hvalue : pair.pairPriority.toNat = _ := toNat_computePairPriority.2 hfits.1
  have hvalue' : pair'.pairPriority.toNat = _ := toNat_computePairPriority.2 hfits.2
  rw [and_iff_right ⟨rfl, rfl⟩, UInt64.le_iff_toNat_le, UInt64.le_iff_toNat_le, hvalue, hvalue',
    pairRank_le_iff, pairRank_le_iff]
  have hoffset := pairOffset_lt loc.priority rem.priority
  have hoffset' := pairOffset_lt loc'.priority rem'.priority
  unfold exactPriority Overtakes
  omega

/-- Candidates of the highest priority are accepted.  The priority of a pair of them wraps, and a
pair with one of them and the priority 1 comes before a pair that has the priority 2 twice. -/
theorem pair_priority_wraps :
    let host := fun priority => { sampleHost 1 with priority }
    (∀ priority ∈ [0xFFFFFFFF, 1, 2], (host priority).validate = .ok ()) ∧
    (new (host 0xFFFFFFFF) (host 0xFFFFFFFF) true).pairPriority.toNat = 2 ^ 32 - 2 ∧
    pairRank 1 0xFFFFFFFF < pairRank 2 2 ∧
    (new (host 2) (host 2) true).pairPriority <
      (new (host 1) (host 0xFFFFFFFF) true).pairPriority := by
  refine ⟨List.forall_mem_cons.2 ⟨?_, List.forall_mem_cons.2
    ⟨?_, List.forall_mem_singleton.2 ?_⟩⟩, ?_⟩
  all_goals decide

end LatencyDesk.Session.Routing
