import LatencyDesk.TurnRelay.Authority

/-!
# Several relays

`RelayState::new` takes its number from a counter that all relays share.  A
program can make any number of relays, hold every request that one of them gave
out, and use it on any of them.  `AuthenticatedRequest` has no public
constructor, so a call with another request cannot be written: here such a call,
like a call on a relay that was never made, is no call.

`relayTrace index` is what a run of the program is for one relay.  It is a run of
that relay from its start, and its requests are `Sealed`, because no two relays
have one number (`relay_of_world`).
-/

namespace LatencyDesk.TurnRelay

open Lib Protocol RelayState List Machine Nat

structure RelayWorld where
  nextStateInstance : UInt64
  relays : List RelayState
  /-- The requests that were given out. -/
  issued : List AuthenticatedRequest

inductive WorldCall where
  | new (quota : Quota) (policy : PeerPolicy)
  | on (index : Nat) (now : UInt64) (call : RelayCall)

inductive WorldEvent where
  | made (result : Except StateError Unit)
  | called (index : Nat) (event : RelayEvent)
  | none
deriving DecidableEq

/-- `NEXT_STATE_INSTANCE` starts at one. -/
def RelayWorld.start : RelayWorld := { nextStateInstance := 1, relays := [], issued := [] }

/-- The request that an answer gives out. -/
def givenOut : Except StateError Reply → List AuthenticatedRequest
  | .ok (.authenticated request) => [request]
  | _ => []

def worldMachine (hmac : List UInt8 → List UInt8 → Bytes 32) :
    Machine RelayWorld WorldCall WorldEvent where
  step world
    | .new quota policy =>
      match RelayState.new quota policy world.nextStateInstance with
      | (.ok relay, following) =>
        (.made (.ok ()), { world with
          nextStateInstance := following, relays := world.relays ++ [relay] })
      | (.error e, following) =>
        (.made (.error e), { world with nextStateInstance := following })
    | .on index now call =>
      match world.relays[index]? with
      | none => (.none, world)
      | some relay =>
        if ∀ request ∈ call.request, request ∈ world.issued then
          let answer := call.perform hmac now relay
          (.called index { now := now, call := call, result := answer.1 },
            { world with
              relays := world.relays.set index answer.2
              issued := world.issued ++ givenOut answer.1 })
        else
          (.none, world)

/-- A step of the program on the relay. -/
def relayStep (index : Nat) (step : Step RelayWorld WorldEvent) :
    Option (Step RelayState RelayEvent) :=
  match step.event, step.pre.relays[index]?, step.post.relays[index]? with
  | .called other event, some pre, some post =>
    if other = index then some { pre := pre, event := event, post := post } else none
  | _, _, _ => none

def relayTrace (index : Nat) (h : List (Step RelayWorld WorldEvent)) : RelayTrace :=
  h.filterMap (relayStep index)

/-- The history of one relay of the world. -/
structure History (hmac : List UInt8 → List UInt8 → Bytes 32) (h : RelayTrace)
    (relay : RelayState) : Prop where
  run : ∃ quota policy counter counter' first calls,
    RelayState.new quota policy counter = (.ok first, counter') ∧
      h = (relayMachine hmac).trace first calls ∧ relay = (relayMachine hmac).run first calls
  sealed : Sealed h

variable {request : AuthenticatedRequest}

section

variable {hmac : List UInt8 → List UInt8 → Bytes 32} {h : RelayTrace} {relay : RelayState}

/-- One more call on the relay. -/
theorem History.snoc (hhist : History hmac h relay) {now : UInt64} {call : RelayCall}
    (hreq : ∀ request, call.request = some request →
      request.stateInstance = relay.stateInstance → ∃ issue ∈ h, Issues issue.event request) :
    History hmac (h ++ [(relayMachine hmac).stepAt relay (now, call)])
      (call.perform hmac now relay).2 := by
  obtain ⟨quota, policy, counter, counter', first, calls, hnew, htrace, hrun⟩ := hhist.run
  refine ⟨⟨quota, policy, counter, counter', first, calls ++ [(now, call)], hnew, ?_, ?_⟩, ?_⟩
  · rw [trace_snoc, ← htrace, ← hrun]
  · rw [run_snoc, ← hrun]
    rfl
  · exact throughout_snoc.2 ⟨hhist.sealed, hreq⟩

variable {issue : Step RelayState RelayEvent}

theorem History.issued (hhist : History hmac h relay) (hissue : issue ∈ h)
    (hissues : Issues issue.event request) :
    Issued hmac relay request := by
  obtain ⟨_, _, _, _, _, calls, hnew, rfl, rfl⟩ := hhist.run
  exact (issued_of_run (new_ok hnew).2.1).2 issue hissue request hissues

theorem History.same_instance (hhist : History hmac h relay) (hissue : issue ∈ h)
    (hissues : Issues issue.event request) : request.stateInstance = relay.stateInstance := by
  obtain ⟨_, _, _, _, first, calls, _, rfl, rfl⟩ := hhist.run
  obtain ⟨before, _, _, _, rfl⟩ := (relayMachine hmac).mem_trace hissue
  obtain ⟨_, _, hreq⟩ := call_of_authenticated (Prod.ext hissues rfl)
  obtain ⟨_, _, _, _, _, hinst, _⟩ := authenticateRequest_ok hreq
  rw [hinst, (run_constants hmac first before).1, (run_constants hmac first calls).1]

end

/-- What a run of the program keeps. -/
structure Consistent (hmac : List UInt8 → List UInt8 → Bytes 32)
    (h : List (Step RelayWorld WorldEvent)) (world : RelayWorld) : Prop where
  history : ∀ (index : Nat) (relay : RelayState), world.relays[index]? = some relay →
    History hmac (relayTrace index h) relay
  missing : ∀ index : Nat, world.relays[index]? = none → relayTrace index h = []
  numbered : ∀ (index : Nat) (relay : RelayState), world.relays[index]? = some relay →
    relay.stateInstance.toNat < world.nextStateInstance.toNat
  distinct : ∀ (index other : Nat) (relay relay' : RelayState),
    world.relays[index]? = some relay →
    world.relays[other]? = some relay' → relay.stateInstance = relay'.stateInstance →
    index = other
  issued : ∀ request ∈ world.issued, ∃ (index : Nat) (relay : RelayState),
    world.relays[index]? = some relay ∧
    relay.stateInstance = request.stateInstance ∧
    ∃ issue ∈ relayTrace index h, Issues issue.event request

section

variable {hmac : List UInt8 → List UInt8 → Bytes 32} {h : List (Step RelayWorld WorldEvent)}
  {world : RelayWorld}

theorem consistent_start : Consistent hmac [] .start where
  history := nofun
  missing := fun _ _ => rfl
  numbered := nofun
  distinct := fun _ _ _ _ hrelay => by cases hrelay
  issued := nofun

theorem Consistent.made {quota : Quota} {policy : PeerPolicy} {relay : RelayState}
    {following : UInt64} (hworld : Consistent hmac h world)
    (hnew : RelayState.new quota policy world.nextStateInstance = (.ok relay, following)) :
    Consistent hmac h { world with
      nextStateInstance := following, relays := world.relays ++ [relay] } := by
  obtain ⟨hinst, _, _, _, _, hfoll⟩ := new_ok hnew
  -- A relay of the longer list is an old one, or it is the new one.
  have hcases : ∀ index found, (world.relays ++ [relay])[index]? = some found →
      world.relays[index]? = some found ∨ (index = world.relays.length ∧ found = relay) := by
    intro index found hfnd
    rcases lt_trichotomy index world.relays.length with hlt | heq | hgt
    · rw [getElem?_append_left hlt] at hfnd
      exact .inl hfnd
    · subst heq
      rw [getElem?_concat_length] at hfnd
      exact .inr ⟨rfl, (Option.some.inj hfnd).symm⟩
    · rw [getElem?_eq_none (by simp; omega)] at hfnd
      cases hfnd
  constructor
  · intro index found hfnd
    rcases hcases index found hfnd with hold | ⟨rfl, rfl⟩
    · exact hworld.history index found hold
    · rw [hworld.missing _ (getElem?_eq_none (le_refl _))]
      exact ⟨⟨quota, policy, _, following, found, [], hnew, rfl, rfl⟩, throughout_nil⟩
  · intro index hnone
    refine hworld.missing index (getElem?_eq_none ?_)
    rw [getElem?_eq_none_iff, length_append] at hnone
    exact le_trans (le_add_right _ _) hnone
  · intro index found hfnd
    dsimp only
    rcases hcases index found hfnd with hold | ⟨_, rfl⟩
    · have := hworld.numbered index found hold
      omega
    · rw [hinst]
      omega
  · intro index other found found' hfnd hfnd' hequal
    rcases hcases index found hfnd with hold | ⟨rfl, rfl⟩ <;>
      rcases hcases other found' hfnd' with hold' | ⟨rfl, rfl⟩
    · exact hworld.distinct index other found found' hold hold' hequal
    · have hnum := hworld.numbered index found hold
      rw [hequal, hinst] at hnum
      exact absurd hnum (lt_irrefl _)
    · have hnum := hworld.numbered other found' hold'
      rw [← hequal, hinst] at hnum
      exact absurd hnum (lt_irrefl _)
    · rfl
  · intro request hreq
    obtain ⟨index, found, hfnd, hissue⟩ := hworld.issued request hreq
    refine ⟨index, found, ?_, hissue⟩
    exact (List.getElem?_append_left (List.getElem?_eq_some_iff.1 hfnd).1).trans hfnd

/-- The world after a call on one of its relays. -/
def RelayWorld.answered (world : RelayWorld) (index : Nat)
    (answer : Except StateError Reply × RelayState) : RelayWorld :=
  { world with
    relays := world.relays.set index answer.2
    issued := world.issued ++ givenOut answer.1 }

theorem RelayWorld.answered_relays (world : RelayWorld) (index : Nat)
    (answer : Except StateError Reply × RelayState) (other : Nat) :
    (world.answered index answer).relays[other]? =
      world.relays[other]?.map fun before => if index = other then answer.2 else before := by
  rw [answered, getElem?_set']
  split_ifs with heq
  · rfl
  · exact Option.map_id'.symm

variable {index : Nat} {relay : RelayState} {now : UInt64} {call : RelayCall}

theorem mem_givenOut {res : Except StateError Reply} (hreq : request ∈ givenOut res) :
    res = .ok (.authenticated request) := by
  unfold givenOut at hreq
  split at hreq
  · rw [mem_singleton.1 hreq]
  · exact absurd hreq not_mem_nil

variable {step : Step RelayWorld WorldEvent}

open RelayWorld

/-- A step that is no call on the relay leaves its history. -/
theorem relayTrace_snoc (hstep : ∀ event, step.event ≠ .called index event) :
    relayTrace index (h ++ [step]) = relayTrace index h := by
  have hnone : relayStep index step = none := by
    unfold relayStep
    split
    · next hev _ _ =>
      exact if_neg fun heq => hstep _ (heq ▸ hev)
    · rfl
  rw [relayTrace, filterMap_snoc, hnone]
  exact append_nil _

theorem Consistent.called (hworld : Consistent hmac h world)
    (hrelay : world.relays[index]? = some relay)
    (hallowed : ∀ request ∈ call.request, request ∈ world.issued) (hpre : step.pre = world)
    (hev : step.event =
      .called index { now := now, call := call, result := (call.perform hmac now relay).1 })
    (hpost : step.post = world.answered index (call.perform hmac now relay)) :
    Consistent hmac (h ++ [step]) (world.answered index (call.perform hmac now relay)) := by
  have hget := world.answered_relays index (call.perform hmac now relay)
  have hsame : ∀ other before, world.relays[other]? = some before →
      (if index = other then (call.perform hmac now relay).2 else before).stateInstance =
        before.stateInstance := by
    intro other before hbef
    split_ifs with heq
    · rw [← heq, hrelay] at hbef
      rw [(perform_effect hmac relay now call).constants.1, Option.some.inj hbef]
    · rfl
  -- The call is one more step of its own relay, and of no other.
  have htrace : relayTrace index (h ++ [step]) =
      relayTrace index h ++ [(relayMachine hmac).stepAt relay (now, call)] := by
    have hstep : relayStep index step = some ((relayMachine hmac).stepAt relay (now, call)) := by
      unfold relayStep
      rw [hev, hpre, hpost, hget, hrelay, Option.map_some, if_pos rfl]
      exact if_pos rfl
    rw [relayTrace, filterMap_snoc, hstep]
    rfl
  have hoth : ∀ other, other ≠ index → relayTrace other (h ++ [step]) = relayTrace other h := by
    intro other hne
    refine relayTrace_snoc fun event hcalled => hne ?_
    rw [hev] at hcalled
    cases hcalled
    rfl
  constructor
  · intro other found hfnd
    rw [hget, Option.map_eq_some_iff] at hfnd
    obtain ⟨before, hbef, rfl⟩ := hfnd
    split_ifs with heq
    · subst heq
      rw [htrace]
      refine (hworld.history index relay hrelay).snoc ?_
      intro request hreq hinst
      obtain ⟨issuer, found, hfnd, hinst', hissue⟩ :=
        hworld.issued request (hallowed request hreq)
      rw [hworld.distinct index issuer relay found hrelay hfnd (hinst.symm.trans hinst'.symm)]
      exact hissue
    · rw [hoth other (Ne.symm heq)]
      exact hworld.history other before hbef
  · intro other hnone
    rw [hget, Option.map_eq_none_iff] at hnone
    rw [hoth other (by rintro rfl; rw [hrelay] at hnone; cases hnone)]
    exact hworld.missing other hnone
  · intro other found hfnd
    rw [hget, Option.map_eq_some_iff] at hfnd
    obtain ⟨before, hbef, rfl⟩ := hfnd
    rw [hsame other before hbef]
    exact hworld.numbered other before hbef
  · intro first second found found' hfnd hfnd' hequal
    rw [hget, Option.map_eq_some_iff] at hfnd hfnd'
    obtain ⟨before, hbef, rfl⟩ := hfnd
    obtain ⟨before', hbef', rfl⟩ := hfnd'
    rw [hsame first before hbef, hsame second before' hbef'] at hequal
    exact hworld.distinct first second before before' hbef hbef' hequal
  · intro request hreq
    rw [answered, mem_append] at hreq
    rcases hreq with hold | hnew
    · obtain ⟨issuer, before, hbef, hinst, issue, hissue, hissues⟩ := hworld.issued request hold
      refine ⟨issuer, _, ?_, (hsame issuer before hbef).trans hinst, issue, ?_, hissues⟩
      · rw [hget, hbef, Option.map_some]
      · rw [relayTrace, filterMap_append]
        exact mem_append_left _ hissue
    · have hres := mem_givenOut hnew
      refine ⟨index, _, ?_, (hsame index relay hrelay).trans ?_,
        (relayMachine hmac).stepAt relay (now, call), ?_, hres⟩
      · rw [hget, hrelay, Option.map_some]
      · obtain ⟨_, _, hreq⟩ := call_of_authenticated (Prod.ext hres rfl)
        obtain ⟨_, _, _, _, _, hinst, _⟩ := authenticateRequest_ok hreq
        exact hinst.symm
      · rw [htrace]
        exact mem_append_right _ (mem_singleton_self _)

/-- A step is a call on a relay, or it makes a relay, or it leaves the relays. -/
theorem step_cases
    {call : WorldCall} :
    (∃ index now call' relay, world.relays[index]? = some relay ∧
      (∀ request ∈ RelayCall.request call', request ∈ world.issued) ∧
      (worldMachine hmac).step world call =
        (.called index { now := now, call := call', result := (call'.perform hmac now relay).1 },
          world.answered index (call'.perform hmac now relay))) ∨
    (∀ index event, ((worldMachine hmac).step world call).1 ≠ .called index event) ∧
      ((∃ quota policy relay following,
        new quota policy world.nextStateInstance = (.ok relay, following) ∧
        ((worldMachine hmac).step world call).2 =
          { world with nextStateInstance := following, relays := world.relays ++ [relay] }) ∨
      ∃ following, world.nextStateInstance.toNat ≤ following.toNat ∧
        ((worldMachine hmac).step world call).2 =
          { world with nextStateInstance := following }) := by
  cases call with
  | new quota policy =>
    have hle := new_counter_le quota policy world.nextStateInstance
    rcases hnew : new quota policy world.nextStateInstance with
      ⟨e | relay, following⟩
    · rw [hnew] at hle
      simp only [worldMachine, hnew]
      exact .inr ⟨fun _ _ => nofun, .inr ⟨following, hle, rfl⟩⟩
    · simp only [worldMachine, hnew]
      exact .inr ⟨fun _ _ => nofun, .inl ⟨quota, policy, relay, following, hnew, rfl⟩⟩
  | on index now call =>
    cases hrelay : world.relays[index]? with
    | none =>
      simp only [worldMachine, hrelay]
      exact .inr ⟨fun _ _ => nofun, .inr ⟨_, le_rfl, rfl⟩⟩
    | some relay =>
      simp only [worldMachine, hrelay]
      split_ifs with hallowed
      · exact .inl ⟨index, now, call, relay, hrelay, hallowed, rfl⟩
      · exact .inr ⟨fun _ _ => nofun, .inr ⟨_, le_rfl, rfl⟩⟩

/-- A step that is not a call on a relay leaves every history. -/
theorem Consistent.snoc (hworld : Consistent hmac h world)
    (hstep : ∀ index event, step.event ≠ .called index event) :
    Consistent hmac (h ++ [step]) world := by
  have htrace : ∀ index, relayTrace index (h ++ [step]) = relayTrace index h :=
    fun index => relayTrace_snoc (hstep index)
  exact ⟨fun index => by rw [htrace]; exact hworld.history index,
    fun index => by rw [htrace]; exact hworld.missing index, hworld.numbered, hworld.distinct,
    fun request hreq => by simp only [htrace]; exact hworld.issued request hreq⟩

/-- Every run of the program is consistent. -/
theorem consistent_of_run (hmac : List UInt8 → List UInt8 → Bytes 32) (calls : List WorldCall) :
    Consistent hmac ((worldMachine hmac).trace .start calls)
      ((worldMachine hmac).run .start calls) := by
  refine (worldMachine hmac).trace_induction consistent_start ?_ calls
  intro h world call hworld
  rcases step_cases with ⟨index, _, _, relay, hrelay, hallowed, hstep⟩ |
    ⟨hev, ⟨_, _, relay, following, hnew, hpost⟩ | ⟨following, hle, hpost⟩⟩
  · rw [hstep]
    refine hworld.called hrelay hallowed rfl ?_ ?_
    · rw [stepAt_event, hstep]
    · rw [stepAt_post, hstep]
  · rw [hpost]
    exact (hworld.made hnew).snoc hev
  · rw [hpost]
    have hcnt : Consistent hmac h { world with nextStateInstance := following } :=
      { hworld with
        numbered := fun index relay hrelay =>
          lt_of_lt_of_le (hworld.numbered index relay hrelay) hle }
    exact hcnt.snoc hev

variable {call : WorldCall} {event : RelayEvent}
  (hev : ((worldMachine hmac).step world call).1 = .called index event)

include hev in
/-- What an event of a relay says about the step. -/
theorem called_of_event :
    ∃ relay, world.relays[index]? = some relay ∧
      event = ((relayMachine hmac).stepAt relay (event.now, event.call)).event ∧
      ((worldMachine hmac).step world call).2 =
        world.answered index (event.call.perform hmac event.now relay) := by
  rcases step_cases with ⟨_, _, _, relay, hrelay, _, hstep⟩ | ⟨hoth, _⟩
  · rw [hstep] at hev ⊢
    cases hev
    exact ⟨relay, hrelay, rfl, rfl⟩
  · exact absurd hev (hoth _ _)

include hev in
/-- An event of a relay is in its history. -/
theorem relayStep_of_event :
    ∃ step, relayStep index ((worldMachine hmac).stepAt world call) = some step ∧
      step.event = event := by
  obtain ⟨relay, hrelay, hsame, hpost⟩ := called_of_event hev
  refine ⟨(relayMachine hmac).stepAt relay (event.now, event.call), ?_, hsame.symm⟩
  unfold relayStep
  rw [stepAt_event, hev, stepAt_pre, stepAt_post, hpost, answered_relays, hrelay,
    Option.map_some, if_pos rfl]
  dsimp only
  rw [if_pos rfl, hsame]
  rfl

/-- A place in the history of a relay, as a place in a run of the relay. -/
theorem relay_of_world {calls : List WorldCall} {earlier later : RelayTrace}
    {step : Step RelayState RelayEvent}
    (htrace : relayTrace index ((worldMachine hmac).trace .start calls) =
      earlier ++ step :: later) :
    ∃ quota policy counter counter' first before timed after,
      RelayState.new quota policy counter = (.ok first, counter') ∧
      earlier = (relayMachine hmac).trace first before ∧ Sealed earlier ∧
      step = (relayMachine hmac).stepAt ((relayMachine hmac).run first before) timed ∧
      later = (relayMachine hmac).trace step.post after := by
  have hworld := consistent_of_run hmac calls
  cases hrelay : ((worldMachine hmac).run .start calls).relays[index]? with
  | none =>
    rw [hworld.missing index hrelay] at htrace
    simp at htrace
  | some relay =>
    have hhist := hworld.history index relay hrelay
    obtain ⟨quota, policy, counter, counter', first, _, hnew, hrun, _⟩ := hhist.run
    rw [htrace] at hrun
    obtain ⟨before, timed, after, _, hearlier, hstep, hlater⟩ :=
      (relayMachine hmac).trace_eq_append_cons hrun.symm
    have hsealed := hhist.sealed
    rw [htrace] at hsealed
    exact ⟨quota, policy, counter, counter', first, before, timed, after, hnew, hearlier,
      hsealed.of_append, hstep, hlater⟩

end

end LatencyDesk.TurnRelay
