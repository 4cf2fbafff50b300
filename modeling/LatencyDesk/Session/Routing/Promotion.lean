import LatencyDesk.Lib.InPlace
import LatencyDesk.Session.RouteTransition.Model
import LatencyDesk.Session.Routing.Backing

/-!
# Paths that may be promoted

`validPath` is the check that a route transition makes of its candidate.  `Offers` collects the
paths that a router can hand out.  Only `set_candidates` brings new ones into play, from
candidates that it has validated one by one.  It does not compare the address families of a
pair, so a run hands out valid paths as long as its pairs join addresses of one family.
-/

namespace LatencyDesk.Session.Routing

open Lib Protocol ConnectionRouter RouteTransition CandidatePair RouteTransitionController List
  UInt8

/-- The path of a direct pair. -/
def CandidatePair.path (pair : CandidatePair) : Option ConnectionPath :=
  if pair.isDirect then some (directPath pair) else none

/-- The paths that the router holds, and those of the direct pairs of its table. -/
def Offers (r : ConnectionRouter) (path : ConnectionPath) : Prop :=
  r.activePath = some path ∨ r.fallbackRelayPath = some path ∨
    some path ∈ r.pairs.map CandidatePair.path

def RouterEvent.path : RouterEvent → Option ConnectionPath
  | .selectInitialPath _ result => result.toOption
  | .recordCheckResult _ _ _ result => result
  | _ => none

/-- A call that answers with `answer` and leaves `after` brings no path into play. -/
def BringsNone (r : ConnectionRouter) (answer : Option ConnectionPath) (after : ConnectionRouter) :
    Prop :=
  ∀ path, answer = some path ∨ Offers after path → Offers r path

variable {r : ConnectionRouter} {pairIdx : Nat} {pair : CandidatePair} {pairs : List CandidatePair}
  {state : CandidatePairState}

@[simp] theorem map_path_setPairState :
    (setPairState pairs pairIdx state).map path = pairs.map path :=
  map_modify_of_eq (f := fun pair => { pair with state }) (fun _ => rfl) pairs pairIdx

theorem mem_path_of_mem (hmem : pair ∈ pairs)
    (hdirect : pair.isDirect = true) : some (directPath pair) ∈ pairs.map path :=
  mem_map.2 ⟨pair, hmem, if_pos hdirect⟩

theorem mem_path_of_findDirect {idx : Nat} (hfnd : findDirect r.pairs state = some (pair, idx)) :
    some (directPath pair) ∈ r.pairs.map path := by
  obtain ⟨hmem, hdirect, _⟩ := mem_of_findDirect hfnd
  exact mem_path_of_mem hmem hdirect

theorem bringsNone_fallBack : BringsNone r r.fallBack.1.toOption r.fallBack.2 := by
  have hpairs : (r.pairs.map fun pair => if pair.isDirect && pair.state == .inProgress then
      { pair with state := .failed } else pair).map path =
        r.pairs.map path := by
    rw [map_map]
    refine map_congr_left fun pair _ => ?_
    simp only [Function.comp]
    split_ifs <;> rfl
  intro path hpath
  unfold fallBack Offers at hpath
  unfold Offers
  all_goals grind [Except.toOption]

variable (nowNs : UInt64)

theorem bringsNone_selectInitialPath :
    BringsNone r (r.selectInitialPath nowNs).1.toOption (r.selectInitialPath nowNs).2 := by
  unfold selectInitialPath
  split
  · grind [BringsNone, Offers, Except.toOption]
  split
  · next hfnd =>
    have := mem_path_of_findDirect hfnd
    grind [BringsNone, Offers, Except.toOption]
  unfold checkDirect
  dsimp only
  split_ifs
  · split
    · next hfnd =>
      have := mem_path_of_findDirect hfnd
      grind [BringsNone, Offers, Except.toOption, map_path_setPairState]
    · split
      · next hfnd =>
        have := mem_path_of_findDirect hfnd
        grind [BringsNone, Offers, Except.toOption]
      · exact bringsNone_fallBack
  · exact bringsNone_fallBack

theorem bringsNone_recordCheckResult {success : Bool} {rttNs : UInt64} :
    BringsNone r (r.recordCheckResult pairIdx success rttNs).1
      (r.recordCheckResult pairIdx success rttNs).2 := by
  unfold recordCheckResult
  split
  · grind [BringsNone]
  next pair hget =>
  split_ifs
  · unfold recordSuccess
    have hpairs := map_modify_of_eq (f := fun pair : CandidatePair =>
      { pair with state := .succeeded, rttNs := some rttNs }) (g := path)
      (fun _ => rfl) r.pairs pairIdx
    have := mem_path_of_mem (mem_of_getElem? hget)
    grind [BringsNone, Offers]
  · unfold recordFailure
    grind [BringsNone, Offers, map_path_setPairState]

theorem bringsNone_tickBackgroundProbing :
    BringsNone r none (r.tickBackgroundProbing nowNs).2 := by
  unfold tickBackgroundProbing
  grind [BringsNone, Offers, map_path_setPairState]

theorem validIp_eq (ip : WireIpAddr) : validIp ip = isUsableCandidateAddress ip := by
  have hclass : ∀ i, (ofFin i &&& 0xf0 != 0xe0) =
      !(decide (224 ≤ ofFin i) && decide (ofFin i ≤ 239)) := by
    decide +kernel
  cases ip with
  | v4 octets =>
    have hhead := hclass octets.head.toFin
    simp only [ofFin_toFin] at hhead
    rw [validIp, isUsableCandidateAddress, hhead]
  | v6 octets => rfl

theorem valid_of_validate {cand : IceCandidate} (h : cand.validate = .ok ()) :
    cand.port ≠ 0 ∧ validIp cand.ip = true ∧
      (cand.candidateType = .relayed → cand.relayProvider ≠ .none) := by
  revert h
  unfold IceCandidate.validate
  split_ifs with hcomponent hport haddr
  iterate 3 exact nofun
  · split
    · exact nofun
    dsimp only
    split_ifs with hprovider
    iterate 3 exact nofun
    · intro _
      refine ⟨hport, by rw [validIp_eq]; simpa using haddr, ?_⟩
      rintro hrelayed hnone
      simp [hrelayed, hnone] at hprovider

variable {locals remotes : List IceCandidate}

theorem mem_of_mem_makePairs {isControlling : Bool}
    (h : pair ∈ makePairs isControlling locals remotes) :
    pair.localCandidate ∈ locals ∧ pair.remoteCandidate ∈ remotes := by
  have hmem := (perm_insertionSort _ _).mem_iff.1 h
  simp only [mem_flatMap, mem_map, mem_filter] at hmem
  obtain ⟨_, hloc, _, ⟨hrem, _⟩, rfl⟩ := hmem
  exact ⟨hloc, hrem⟩

/-- The direct pairs that `set_candidates` makes join two addresses of one family, and one of
the two candidates has a priority. -/
def JoinsFamilies (r : ConnectionRouter) : RouterCall → Prop
  | .setCandidates locals remotes relaySessionId remotePeerId =>
    ∀ pair ∈ (r.setCandidates locals remotes relaySessionId remotePeerId).2.pairs,
      pair.isDirect = true → pair.pairPriority ≠ 0 ∧
        sameFamily pair.localCandidate.ip pair.remoteCandidate.ip = true
  | _ => True

/-- Every path that the router can hand out passes the check of the route transition. -/
def Promotable (r : ConnectionRouter) : Prop := ∀ path, Offers r path → validPath path = true

theorem promotable_setCandidates (h : Promotable r) {relaySessionId : UInt64}
    {remotePeerId : Bytes 16}
    (hjoins : JoinsFamilies r (.setCandidates locals remotes relaySessionId remotePeerId)) :
    Promotable (r.setCandidates locals remotes relaySessionId remotePeerId).2 := by
  simp only [JoinsFamilies] at hjoins
  revert hjoins
  unfold setCandidates
  split_ifs with hempty hlimit hinv
  iterate 3 exact fun _ => h
  · have hval : (∀ cand ∈ locals, cand.validate = .ok ()) ∧
        ∀ cand ∈ remotes, cand.validate = .ok () := by
      simpa using hinv
    rintro hjoins path (hact | hfall | htable)
    · cases hact
    · obtain ⟨_, hfnd, rfl⟩ := Option.map_eq_some_iff.1 hfall
      have hcand := find?_some hfnd
      simp only [Bool.and_eq_true, decide_eq_true_eq, beq_iff_eq] at hcand
      obtain ⟨⟨⟨hrelayed, hvalidate⟩, hsess⟩, hpeer⟩ := hcand
      have hprovider := (valid_of_validate hvalidate).2.2 hrelayed
      rw [validPath, hsess, hpeer]
      simpa using hprovider
    · obtain ⟨pair, hpair, hpath⟩ := mem_map.1 htable
      obtain ⟨hdirect, hpath⟩ := Option.ite_none_right_eq_some.1 hpath
      cases hpath
      obtain ⟨hlocal, hremote⟩ := mem_of_mem_makePairs hpair
      have hloc := valid_of_validate (hval.1 _ hlocal)
      have hrem := valid_of_validate (hval.2 _ hremote)
      simp [validPath, directPath, hloc, hrem, hjoins pair hpair hdirect]

theorem promotable_step {call : RouterCall} (hjoins : JoinsFamilies r call) (h : Promotable r) :
    Promotable (routerMachine.step r call).2 ∧
      ∀ path, (routerMachine.step r call).1.path = some path → validPath path = true := by
  have hbrings : ∀ {answer after}, BringsNone r answer after →
      Promotable after ∧ ∀ path, answer = some path → validPath path = true := fun hnone =>
    ⟨fun path hpath => h path (hnone path (.inr hpath)),
      fun path hpath => h path (hnone path (.inl hpath))⟩
  cases call with
  | setCandidates => exact ⟨promotable_setCandidates h hjoins, nofun⟩
  | selectInitialPath nowNs => exact hbrings (bringsNone_selectInitialPath nowNs)
  | recordCheckResult _ success rttNs => exact hbrings bringsNone_recordCheckResult
  | tickBackgroundProbing nowNs => exact hbrings (bringsNone_tickBackgroundProbing nowNs)

theorem begin_ne_invalidRoute {path : ConnectionPath} (hval : validPath path = true)
    (sha256 : Sha256) (c : RouteTransitionController) (proof : RouteProof) (nowNs : UInt64) :
    (begin sha256 c path proof nowNs).1 ≠ .error .invalidRoute := by
  unfold begin
  rw [if_neg (Bool.not_eq_false _ ▸ hval : ¬validPath path = false)]
  split_ifs
  iterate 4 exact nofun
  · split
    · exact nofun
    · split <;> exact nofun

/-- Every path that the router hands out passes the check of the route transition, and `begin`
does not refuse it as invalid. -/
theorem handed_out_path_is_promotable (isControlling : Bool) (directCheckTimeoutNs : UInt64)
    (calls : List RouterCall)
    (hcalls : routerMachine.Along JoinsFamilies (new isControlling directCheckTimeoutNs) calls) :
    ∀ st ∈ routerMachine.trace (new isControlling directCheckTimeoutNs) calls,
      ∀ path, st.event.path = some path → validPath path = true ∧
        ∀ sha256 controller proof nowNs,
          (RouteTransitionController.begin sha256 controller path proof nowNs).1 ≠
            .error .invalidRoute := by
  have hnew : Promotable (new isControlling directCheckTimeoutNs) := nofun
  intro st hst path hpath
  have hval := routerMachine.forall_trace_of_along (P := Promotable)
    (R := fun st => ∀ path, st.event.path = some path → validPath path = true)
    (fun _ call hjoins h => (promotable_step hjoins h).1)
    (fun _ call hjoins h => (promotable_step hjoins h).2) hnew hcalls st hst path hpath
  exact ⟨hval, begin_ne_invalidRoute hval⟩

theorem sample_path_is_promotable :
    ∃ st ∈ routerMachine.trace (new true 1000) sampleRouterCalls,
      ∃ path, st.event.path = some path ∧ validPath path = true := by
  have hcalls : routerMachine.Along JoinsFamilies (new true 1000) sampleRouterCalls := by
    refine ⟨?_, trivial, trivial, trivial, trivial⟩
    simp only [JoinsFamilies]
    decide
  obtain ⟨st, hst, hpath⟩ : ∃ st ∈ routerMachine.trace (new true 1000) sampleRouterCalls,
      st.event.path.isSome := by
    decide
  obtain ⟨path, hpath⟩ := Option.isSome_iff_exists.1 hpath
  exact ⟨st, hst, path, hpath,
    (handed_out_path_is_promotable true 1000 sampleRouterCalls hcalls st hst path hpath).1⟩

/-- A host with an IPv4 address and a peer with an IPv6 address.  The router hands out the path
between the two and the route transition refuses it. -/
theorem mixed_families_are_refused :
    let remote := { sampleHost 2 with ip := .v6 (List.Vector.replicate 16 0x20) }
    let r := (new true 1000).setCandidates [sampleHost 1] [remote] 7 (List.Vector.replicate 16 9)
    r.1 = .ok () ∧ ∃ path, (r.2.selectInitialPath 1000).1 = .ok path ∧
      validPath path = false ∧
        (begin Sha256.hash sampleController path sampleProof 0).1 =
          .error .invalidRoute := by
  exact ⟨rfl, _, rfl, by decide, by decide⟩

end LatencyDesk.Session.Routing
