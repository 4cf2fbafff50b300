import LatencyDesk.Session.Routing.Router

/-!
# What stands behind an active direct path

`Backed` says that a succeeded pair stands behind the active direct path.  One
step can break it: a failure of the active pair while there is no relay path
to fall back on, which `Strands` describes.  Every other step keeps it, so a
run is sound exactly when no step of it strands the active path.  A failed
check is matched with the active path by its priority only, so the failure of
another pair may move the path as well.
-/

namespace LatencyDesk.Session.Routing

open Lib Protocol List Option

/-- The path does not go through a relay. -/
def isDirectPath : ConnectionPath → Bool
  | .direct _ _ _ _ _ => true
  | .relay _ _ _ => false

/-- A succeeded direct pair has the addresses, ports and priority of the path. -/
def BackedBy (pairs : List CandidatePair) (path : ConnectionPath) : Prop :=
  ∃ pair ∈ pairs, directPath pair = path ∧ pair.isDirect = true ∧ pair.state = .succeeded

/-- An active direct path is backed, and the fallback is a relay path. -/
structure Backed (r : ConnectionRouter) : Prop where
  active : ∀ path, r.activePath = some path → isDirectPath path = true → BackedBy r.pairs path
  fallback : ∀ path, r.fallbackRelayPath = some path → isDirectPath path = false

/-- The pair at the index is direct and its path is the active one. -/
def IsActivePair (r : ConnectionRouter) (pairIdx : Nat) : Prop :=
  ∃ pair, r.pairs[pairIdx]? = some pair ∧ pair.isDirect = true ∧
    r.activePath = some (directPath pair)

/-- A failed check of the active pair leaves another path or no path active. -/
def DropsFailed (st : Step ConnectionRouter RouterEvent) : Prop :=
  ∀ pairIdx rttNs result, st.event = .recordCheckResult pairIdx false rttNs result →
    IsActivePair st.pre pairIdx → st.post.activePath ≠ st.pre.activePath

/-- The step reports a failed check of the active pair and there is no relay
path to fall back on. -/
def Strands (st : Step ConnectionRouter RouterEvent) : Prop :=
  ∃ pairIdx rttNs result, st.event = .recordCheckResult pairIdx false rttNs result ∧
    IsActivePair st.pre pairIdx ∧ st.pre.fallbackRelayPath = none

/-! ## Pairs whose state changes -/

variable {pairs : List CandidatePair} {path : ConnectionPath} {idx : Nat}

/-- A changed pair that still backs the path, or never did, leaves it backed. -/
theorem BackedBy.modify {change : CandidatePair → CandidatePair}
    (hchange : ∀ pair, pairs[idx]? = some pair → directPath pair = path →
      pair.isDirect = true → directPath (change pair) = path ∧
        (change pair).isDirect = true ∧ (change pair).state = .succeeded)
    (hbacked : BackedBy pairs path) : BackedBy (pairs.modify idx change) path := by
  obtain ⟨pair, hmem, hpath, hdirect, hstate⟩ := hbacked
  obtain ⟨j, hj⟩ := mem_iff_getElem?.1 hmem
  have hget : (pairs.modify idx change)[j]? = some (if idx = j then change pair else pair) := by
    rw [getElem?_modify, hj]
    rfl
  have hmem' := mem_iff_getElem?.2 ⟨j, hget⟩
  split_ifs at hmem' with hidx
  · exact ⟨change pair, hmem', hchange pair (hidx ▸ hj) hpath hdirect⟩
  · exact ⟨pair, hmem', hpath, hdirect, hstate⟩

variable {pair : CandidatePair} {r : ConnectionRouter} {call : RouterCall}

/-- A pair found by its state is in the table and in that state. -/
theorem mem_of_findDirect {state : CandidatePairState}
    (h : ConnectionRouter.findDirect pairs state = some (pair, idx)) :
    pair ∈ pairs ∧ pair.isDirect = true ∧ pair.state = state := by
  have hfnd := find?_some h
  rw [Bool.and_eq_true, beq_iff_eq] at hfnd
  have hmem : pair ∈ pairs := fst_mem_of_mem_zipIdx (mem_of_find?_eq_some h)
  exact ⟨hmem, hfnd.1, hfnd.2⟩

namespace Backed

variable {r : ConnectionRouter}

/-- No path is active. -/
theorem of_none (hnone : r.activePath = none)
    (hfall : ∀ path, r.fallbackRelayPath = some path → isDirectPath path = false) :
    Backed r := by
  refine ⟨?_, hfall⟩
  intro path hpath
  rw [hnone] at hpath
  cases hpath

/-- A relay path is active. -/
theorem of_relay {relay : ConnectionPath} (hact : r.activePath = some relay)
    (hrelay : isDirectPath relay = false)
    (hfall : ∀ path, r.fallbackRelayPath = some path → isDirectPath path = false) :
    Backed r := by
  refine ⟨?_, hfall⟩
  intro path hpath hdirect
  rw [hact, some.injEq] at hpath
  rw [← hpath, hrelay] at hdirect
  cases hdirect

end Backed

/-! ## One step -/

namespace ConnectionRouter

variable {r : ConnectionRouter}

theorem isDirectPath_of_makeRelayPath {locals : List IceCandidate} {relaySessionId : UInt64}
    {remotePeerId : Bytes 16} (h : makeRelayPath locals relaySessionId remotePeerId = some path) :
    isDirectPath path = false := by
  obtain ⟨_, _, rfl⟩ := map_eq_some_iff.1 h
  rfl

open Backed

theorem backed_new {isControlling : Bool} {directCheckTimeoutNs : UInt64} :
    Backed (new isControlling directCheckTimeoutNs) :=
  of_none rfl (nofun)

section

variable (hr : Backed r)

include hr

theorem backed_setCandidates (locals remotes : List IceCandidate)
    (relaySessionId : UInt64) (remotePeerId : Bytes 16) :
    Backed (r.setCandidates locals remotes relaySessionId remotePeerId).2 := by
  unfold setCandidates
  split_ifs
  iterate 3 exact hr
  · exact of_none rfl fun _ => isDirectPath_of_makeRelayPath

theorem backed_fallBack (hnone : r.activePath = none) : Backed r.fallBack.2 := by
  unfold fallBack
  split
  · next relay hfall =>
    exact of_relay rfl (hr.fallback relay hfall) hr.fallback
  · exact of_none hnone hr.fallback

theorem backed_checkDirect (hnone : r.activePath = none) (nowNs : UInt64) :
    Backed (r.checkDirect nowNs).2 := by
  have hstd :
      Backed { r with initialCheckStartedNs := some (r.initialCheckStartedNs.getD nowNs) } :=
    of_none hnone hr.fallback
  unfold checkDirect
  by_cases helapsed :
      saturatingSub nowNs (r.initialCheckStartedNs.getD nowNs) < r.directCheckTimeoutNs
  · rw [if_pos helapsed]
    cases findDirect r.pairs .waiting with
    | some entry => exact of_none hnone hr.fallback
    | none =>
      cases findDirect r.pairs .inProgress with
      | some entry => exact hstd
      | none => exact backed_fallBack hstd hnone
  · rw [if_neg helapsed]
    exact backed_fallBack hstd hnone

theorem backed_selectInitialPath (nowNs : UInt64) :
    Backed (r.selectInitialPath nowNs).2 := by
  unfold selectInitialPath
  split
  · exact hr
  next hact =>
  cases hfnd : findDirect r.pairs .succeeded with
  | none => exact backed_checkDirect hr hact nowNs
  | some entry =>
    obtain ⟨hmem, hdirect, hstate⟩ := mem_of_findDirect hfnd
    refine ⟨?_, hr.fallback⟩
    intro path hpath _
    exact ⟨entry.1, hmem, some.inj hpath, hdirect, hstate⟩

end

theorem isUsingRelay_eq_true (h : r.isUsingRelay = true) :
    ∃ relay, r.activePath = some relay ∧ isDirectPath relay = false := by
  unfold isUsingRelay at h
  split at h
  · next hact => exact ⟨_, hact, rfl⟩
  · cases h

variable {pairIdx : Nat} (hget : r.pairs[pairIdx]? = some pair)

include hget in
theorem backed_recordSuccess (hr : Backed r) (rttNs : UInt64) :
    Backed (r.recordSuccess pairIdx pair rttNs).2 := by
  unfold recordSuccess
  split_ifs with hupgrade
  · rw [Bool.and_eq_true] at hupgrade
    refine ⟨?_, hr.fallback⟩
    intro path hpath _
    refine ⟨{ pair with state := .succeeded, rttNs := some rttNs }, ?_, some.inj hpath,
      hupgrade.1, rfl⟩
    refine mem_iff_getElem?.2 ⟨pairIdx, ?_⟩
    rw [getElem?_modify, hget]
    simp
  · refine ⟨?_, hr.fallback⟩
    intro path hpath hdirect
    refine (hr.active path hpath hdirect).modify ?_
    intro pair' _ hpath' hdirect'
    exact ⟨hpath', hdirect', rfl⟩

/-- A path that stays active is not the path of the failed pair. -/
theorem backed_setPairState_failed (hr : Backed r) (hoth : ¬ IsActivePair r pairIdx) :
    Backed { r with pairs := setPairState r.pairs pairIdx .failed } := by
  refine ⟨?_, hr.fallback⟩
  intro path hpath hdirect
  refine (hr.active path hpath hdirect).modify ?_
  intro pair hget hpair hdirect'
  have hact : r.activePath = some (directPath pair) := by
    rw [hpair]
    exact hpath
  exact absurd ⟨pair, hget, hdirect', hact⟩ hoth

include hget in
/-- A failed check moves to the relay, or the failed pair was not the active
one, or there is no relay to move to. -/
theorem recordFailure_cases :
    (∃ relay stats, r.fallbackRelayPath = some relay ∧
      (r.recordFailure pairIdx pair).2 =
        { r with
          pairs := setPairState r.pairs pairIdx .failed, activePath := some relay
          stats := stats }) ∨
    ((IsActivePair r pairIdx → r.fallbackRelayPath = none) ∧
      (r.recordFailure pairIdx pair).2 =
        { r with pairs := setPairState r.pairs pairIdx .failed }) := by
  unfold recordFailure
  dsimp only
  split
  · next _ _ _ _ pairPriority relay hact hfall =>
    split_ifs with hpriority
    · exact .inl ⟨relay, _, hfall, rfl⟩
    refine .inr ⟨?_, rfl⟩
    -- The active path has the priority of the active pair.
    intro ⟨pair', hget', _, hpath'⟩
    rw [hget, some.injEq] at hget'
    rw [← hget'] at hpath'
    have hsame := some.inj (hact.symm.trans hpath')
    injection hsame with _ _ _ _ hprio
    exact absurd hprio.symm hpriority
  · next hnot =>
    refine .inr ⟨?_, rfl⟩
    intro ⟨pair', _, _, hpath'⟩
    cases hfall : r.fallbackRelayPath with
    | none => rfl
    | some relay => exact (hnot _ _ _ _ _ relay hpath' hfall).elim

include hget in
/-- A failed check keeps the active path backed unless it strands it. -/
theorem backed_recordFailure (hr : Backed r)
    (hsafe : IsActivePair r pairIdx → r.fallbackRelayPath ≠ none) :
    Backed (r.recordFailure pairIdx pair).2 := by
  rcases recordFailure_cases hget with ⟨relay, _, hfall, hpost⟩ | ⟨hnone, hpost⟩
  · rw [hpost]
    exact of_relay rfl (hr.fallback relay hfall) hr.fallback
  · rw [hpost]
    exact backed_setPairState_failed hr fun hpair => hsafe hpair (hnone hpair)

include hget in
/-- A failed check of the active pair leaves the path exactly when there is a
relay. -/
theorem activePath_recordFailure (hr : Backed r) (hact : IsActivePair r pairIdx) :
    (r.recordFailure pairIdx pair).2.activePath ≠ r.activePath ↔ r.fallbackRelayPath ≠ none := by
  rcases recordFailure_cases hget with ⟨relay, _, hfall, hpost⟩ | ⟨hnone, hpost⟩
  · have hmoved : some relay ≠ r.activePath := by
      obtain ⟨_, _, _, hpath⟩ := hact
      have hrelay := hr.fallback relay hfall
      rw [hpath]
      intro hsame
      rw [some.inj hsame] at hrelay
      cases hrelay
    rw [hpost, hfall]
    exact iff_of_true hmoved (some_ne_none relay)
  · rw [hpost, hnone hact]
    exact iff_of_false (fun h => h rfl) (fun h => h rfl)

theorem backed_tickBackgroundProbing (hr : Backed r) {nowNs : UInt64} :
    Backed (r.tickBackgroundProbing nowNs).2 := by
  unfold tickBackgroundProbing
  split_ifs with husing
  · exact hr
  · exact hr
  rw [Bool.not_eq_false] at husing
  obtain ⟨_, hact, hrelay⟩ := isUsingRelay_eq_true husing
  split
  · exact hr
  · exact of_relay hact hrelay hr.fallback

end ConnectionRouter

/-! ## Runs -/

open ConnectionRouter

/-- Only a check result leaves a check result, and its answer is that of
`record_check_result`. -/
theorem stepAt_recordCheckResult {pairIdx : Nat}
    {success : Bool} {rttNs : UInt64} {res : Option ConnectionPath}
    (h : (routerMachine.stepAt r call).event = .recordCheckResult pairIdx success rttNs res) :
    call = .recordCheckResult pairIdx success rttNs := by
  cases call with
  | setCandidates | selectInitialPath | tickBackgroundProbing => cases h
  | recordCheckResult => cases h; rfl

/-- A step that does not strand the active path keeps it backed. -/
theorem backed_step (hr : Backed r)
    (hsafe : ¬ Strands (routerMachine.stepAt r call)) : Backed (routerMachine.step r call).2 := by
  cases call with
  | setCandidates locals remotes relaySessionId remotePeerId =>
    exact backed_setCandidates hr locals remotes relaySessionId remotePeerId
  | selectInitialPath nowNs => exact backed_selectInitialPath hr nowNs
  | tickBackgroundProbing nowNs => exact backed_tickBackgroundProbing hr
  | recordCheckResult pairIdx success rttNs =>
    show Backed (r.recordCheckResult pairIdx success rttNs).2
    unfold recordCheckResult
    split
    · exact hr
    next pair hget =>
    cases success with
    | true => exact backed_recordSuccess hget hr rttNs
    | false =>
      refine backed_recordFailure hget hr ?_
      intro hact hnone
      exact hsafe ⟨pairIdx, rttNs, _, rfl, hact, hnone⟩

/-- A step leaves a failed active path exactly when it does not strand it. -/
theorem dropsFailed_iff (hr : Backed r) :
    DropsFailed (routerMachine.stepAt r call) ↔ ¬ Strands (routerMachine.stepAt r call) := by
  have hstep : ∀ pairIdx rttNs, IsActivePair r pairIdx →
      ((r.recordCheckResult pairIdx false rttNs).2.activePath ≠ r.activePath ↔
        r.fallbackRelayPath ≠ none) := by
    intro pairIdx rttNs hact
    have ⟨pair, hget, _⟩ := hact
    unfold recordCheckResult
    rw [hget]
    exact activePath_recordFailure hget hr hact
  constructor
  · intro hdrops ⟨pairIdx, rttNs, res, hev, hact, hnone⟩
    have hmoved := hdrops pairIdx rttNs res hev hact
    rw [stepAt_recordCheckResult hev] at hmoved
    exact (hstep pairIdx rttNs hact).1 hmoved hnone
  · intro hsafe pairIdx rttNs res hev hact
    have hrelay : r.fallbackRelayPath ≠ none := fun hnone =>
      hsafe ⟨pairIdx, rttNs, res, hev, hact, hnone⟩
    rw [stepAt_recordCheckResult hev]
    exact (hstep pairIdx rttNs hact).2 hrelay

/-- In a run from a new router every state has its active direct path backed
and every failed check of the active pair leaves its path, exactly when no
step of the run strands the active path. -/
theorem active_path_backed_iff (isControlling : Bool) (directCheckTimeoutNs : UInt64)
    (calls : List RouterCall) :
    (∀ st ∈ routerMachine.trace (new isControlling directCheckTimeoutNs) calls,
      Backed st.post ∧ DropsFailed st) ↔
    ∀ st ∈ routerMachine.trace (new isControlling directCheckTimeoutNs) calls, ¬ Strands st := by
  have hrun : ∀ r, Backed r → ∀ calls, ((∀ st ∈ routerMachine.trace r calls,
      Backed st.post ∧ DropsFailed st) ↔ ∀ st ∈ routerMachine.trace r calls, ¬ Strands st) := by
    intro r hr calls
    induction calls generalizing r with
    | nil => simp
    | cons call calls ih =>
      rw [Machine.trace_cons, forall_mem_cons, forall_mem_cons]
      constructor
      · intro ⟨⟨hpost, hdrops⟩, hrest⟩
        exact ⟨(dropsFailed_iff hr).1 hdrops, (ih _ hpost).1 hrest⟩
      · intro ⟨hsafe, hrest⟩
        have hpost := backed_step hr hsafe
        exact ⟨⟨hpost, (dropsFailed_iff hr).2 hsafe⟩, (ih _ hpost).2 hrest⟩
  exact hrun _ backed_new calls

/-- Two endpoints with one host candidate each and no relay.  The only pair
succeeds and is selected.  When its check fails, the failed path stays active
and `select_initial_path` goes on to answer it. -/
theorem failed_path_stays_active :
    let before := routerMachine.run (new true 1000) sampleRouterCalls
    let st := routerMachine.stepAt before (.recordCheckResult 0 false 0)
    IsActivePair before 0 ∧ st.post.activePath = before.activePath ∧
      (∀ pair ∈ st.post.pairs, pair.state = .failed) ∧
      (st.post.selectInitialPath 2000).1.toOption = before.activePath := by
  refine ⟨⟨_, rfl, rfl, rfl⟩, rfl, by decide, rfl⟩

/-! ## A failed check of another pair -/

/-- A failed check moves an active direct path exactly when there is another path to fall back on
and the pair has the priority of the active path.  The addresses of the pair play no part. -/
theorem failure_keeps_path_iff {r : ConnectionRouter} {pairIdx : Nat} {pair : CandidatePair}
    (hget : r.pairs[pairIdx]? = some pair) {localIp remoteIp : WireIpAddr}
    {localPort remotePort : UInt16} {pairPriority : UInt64} (hactive : r.activePath =
      some (.direct localIp localPort remoteIp remotePort pairPriority)) (rttNs : UInt64) :
    (r.recordCheckResult pairIdx false rttNs).2.activePath = r.activePath ↔
      (pair.pairPriority = pairPriority →
        ∀ relay, r.fallbackRelayPath = some relay → some relay = r.activePath) := by
  simp only [recordCheckResult, hget, recordFailure, hactive]
  cases hfall : r.fallbackRelayPath with
  | none => simp
  | some relay => by_cases hprio : pair.pairPriority = pairPriority <;> simp [hprio]

/-- A relayed candidate next to the ones of `sampleHost`. -/
def sampleRelayed : IceCandidate :=
  { sampleHost 9 with priority := 16777215, candidateType := .relayed, relayProvider := .turn }

/-- Two local addresses with one priority.  The first pair is active. -/
def sampleMultiHomed : ConnectionRouter :=
  routerMachine.run (new true 1000)
    [.setCandidates [sampleHost 1, sampleHost 3, sampleRelayed] [sampleHost 2] 7
      (List.Vector.replicate 16 9), .recordCheckResult 0 true 40, .selectInitialPath 1000]

theorem sample_failure_keeps_path :
    (sampleMultiHomed.recordCheckResult 2 false 0).2.activePath = sampleMultiHomed.activePath :=
  (failure_keeps_path_iff rfl rfl 0).2 fun h => absurd h (by decide)

/-- The failure of the second pair takes the path of the first one away. -/
theorem other_failure_moves_path :
    let pairs := sampleMultiHomed.pairs
    sampleMultiHomed.activePath = pairs[0]?.map directPath ∧
      pairs[1]?.map (·.localCandidate.ip) ≠ pairs[0]?.map (·.localCandidate.ip) ∧
      (sampleMultiHomed.recordCheckResult 1 false 0).1 = sampleMultiHomed.fallbackRelayPath ∧
      (sampleMultiHomed.recordCheckResult 1 false 0).2.activePath ≠
        sampleMultiHomed.activePath := by
  decide

end LatencyDesk.Session.Routing
