import LatencyDesk.TurnRelay.Permission

/-!
# A request is not used again

A request is worth nothing on another relay, after its allocation was removed or
ran out, and after the nonce of the allocation was changed.  A call that uses it
then fails.

The call can still prune.  It looks at the allocation at the key of the request
before it compares the incarnation and the generation, and a look drops the
permissions and the bindings that are over (`stale_use_drops_a_permission`).
The relay is otherwise as it was (`stale_request_is_refused`).
-/

namespace LatencyDesk.TurnRelay

open Lib Protocol RelayState List Machine

/-- The allocation exists with this incarnation, and it is not over. -/
def Live (s : RelayState) (key : UdpTuple) (incarnation now : UInt64) : Prop :=
  ∃ allocation, HasIncarnation s key incarnation allocation ∧ now < allocation.expiresAt

/-- The step changed the nonce of the allocation of the request. -/
def RotatesNonceOf (request : AuthenticatedRequest) (step : Step RelayState RelayEvent) : Prop :=
  ∃ used nonce reply, step.event.call = .rotateNonce used nonce ∧
    step.event.result = .ok reply ∧ used.tuple = request.tuple ∧
    used.allocationIncarnation = request.allocationIncarnation

/-! ## On one relay -/

section

variable {hmac : List UInt8 → List UInt8 → Bytes 32} {s : RelayState} {now : UInt64}
  {request : AuthenticatedRequest}

theorem gone_of_not_live (hiss : Issued hmac s request)
    (h : ¬Live s request.tuple request.allocationIncarnation now) : Gone now s request := by
  refine ⟨hiss.old, fun alloc halloc => ?_⟩
  exact UInt64.not_lt.1 fun hlive => h ⟨alloc, halloc, hlive⟩

/-- A change of the nonce outdates the request. -/
theorem outdated_of_rotation {timed : UInt64 × RelayCall} (hiss : Issued hmac s request)
    (h : RotatesNonceOf request ((relayMachine hmac).stepAt s timed)) :
    Outdated ((relayMachine hmac).step s timed).2 request := by
  obtain ⟨now, _⟩ := timed
  obtain ⟨used, nonce, _, hcall, hres, htuple, hinc⟩ := h
  subst hcall
  obtain ⟨_, hrotate, _⟩ := Fallible.map_ok.1 (Prod.ext hres rfl)
  obtain ⟨_, alloc, _, halloc, hgen, hpost⟩ :=
    rotateNonce_ok hrotate
  have heff := perform_effect hmac s now (.rotateNonce used nonce)
  refine ⟨Nat.le_trans hiss.old heff.nextIncarnation_le, fun after hafter => ?_⟩
  have hbef : HasIncarnation s request.tuple request.allocationIncarnation alloc := by
    rw [← htuple, ← hinc]
    exact ⟨halloc.found, halloc.incarnation⟩
  have hold := hiss.generation alloc hbef
  have hlook := hafter.1
  rw [show ((relayMachine hmac).step s (now, .rotateNonce used nonce)).2 = s.put _ _ from hpost,
    ← htuple, lookup_put halloc.found, if_pos rfl] at hlook
  cases hlook
  dsimp only
  omega

/-- What an outdated request is, it is after every further call. -/
theorem Outdated.run (h : Outdated s request) (calls : List (UInt64 × RelayCall)) :
    Outdated ((relayMachine hmac).run s calls) request :=
  (relayMachine hmac).run_induction (P := fun s => Outdated s request) h
    (fun s timed hs => hs.effect (perform_effect hmac s timed.1 timed.2)) calls

theorem Gone.run (h : Gone now s request) {calls : List (UInt64 × RelayCall)}
    (hcalls : ∀ timed ∈ calls, now ≤ timed.1) :
    Gone now ((relayMachine hmac).run s calls) request :=
  (relayMachine hmac).trace_induction_of (C := fun timed => now ≤ timed.1)
    (P := fun _ s => Gone now s request) h
    (fun _ s timed hnow hs => hs.effect hnow (perform_effect hmac s timed.1 timed.2)) hcalls

/-- After a step of its relay that took the allocation or the nonce away, a request is not one of
the allocation. -/
theorem not_authorizes_after {h₁ h₂ : RelayTrace} {issue step : Step RelayState RelayEvent}
    {relay : RelayState} (hhist : History hmac (h₁ ++ step :: h₂) relay) (hissue : issue ∈ h₁)
    (hissues : Issues issue.event request)
    (hstep : (InOrder (h₁ ++ step :: h₂) ∧ step.event.now ≤ now ∧
        ¬Live step.post request.tuple request.allocationIncarnation step.event.now) ∨
      RotatesNonceOf request step) (alloc : Allocation) :
    ¬Authorizes relay request now alloc := by
  obtain ⟨_, _, _, _, first, _, hnew, htrace, rfl⟩ := hhist.run
  have hempty := (new_ok hnew).2.1
  obtain ⟨before, timed, after, rfl, rfl, rfl, hafter⟩ :=
    (relayMachine hmac).trace_eq_append_cons htrace.symm
  have hrun : (relayMachine hmac).run first (before ++ timed :: after) =
      (relayMachine hmac).run ((relayMachine hmac).run first (before ++ [timed])) after := by
    rw [← run_append, append_assoc, singleton_append]
  rw [hrun, run_snoc]
  rcases hstep with ⟨horder, hnow, hlive⟩ | hrotates
  · have hiss : Issued hmac ((relayMachine hmac).run first (before ++ [timed])) request := by
      refine (issued_of_run hempty).2 issue ?_ request hissues
      rw [trace_snoc]
      exact mem_append_left _ hissue
    rw [run_snoc] at hiss
    have hgone := gone_of_not_live hiss hlive
    have htimes : ∀ later ∈ after, timed.1 ≤ later.1 := by
      intro later hlater
      have hmem : later.1 ∈ h₂.map (·.event.now) := by
        rw [hafter, map_now_trace]
        exact mem_map_of_mem hlater
      obtain ⟨found, hfnd, heq⟩ := mem_map.1 hmem
      rw [← heq]
      exact (pairwise_cons.1 (pairwise_append.1 horder).2.1).1 found hfnd
    exact (hgone.run htimes).not_authorizes hnow alloc
  · have hiss := (issued_of_run hempty).2 issue hissue request hissues
    exact ((outdated_of_rotation hiss hrotates).run after).not_authorizes alloc

end

/-! ## Among several relays -/

/-- Between `issue`, where the relay `issuer` gave the request out, and `used`, a call on the
relay `index`, the request lost its worth. -/
inductive LostWorth (trace between : List (Step RelayWorld WorldEvent)) (issuer index : Nat)
    (relay : RelayState) (used : RelayEvent) (request : AuthenticatedRequest) : Prop
  /-- The call is on another relay. -/
  | elsewhere : issuer ≠ index → LostWorth trace between issuer index relay used request
  /-- The allocation was gone, or over, after some call. -/
  | gone {step : Step RelayState RelayEvent} : InOrder (relayTrace index trace) →
      step ∈ relayTrace index between →
      ¬Live step.post request.tuple request.allocationIncarnation step.event.now →
      LostWorth trace between issuer index relay used request
  /-- The allocation is gone, or over, when the request is used. -/
  | ended : ¬Live relay request.tuple request.allocationIncarnation used.now →
      LostWorth trace between issuer index relay used request
  /-- The nonce of the allocation was changed. -/
  | rotated {step : Step RelayState RelayEvent} : step ∈ relayTrace index between →
      RotatesNonceOf request step → LostWorth trace between issuer index relay used request

/-- Only the relay that gave a request out has the number that the request carries. -/
theorem Consistent.issuer_eq {hmac : List UInt8 → List UInt8 → Bytes 32}
    {h : List (Step RelayWorld WorldEvent)} {world : RelayWorld} (hworld : Consistent hmac h world)
    {issuer index : Nat} {issue : Step RelayState RelayEvent}
    (hissue : issue ∈ relayTrace issuer h) {request : AuthenticatedRequest}
    (hissues : Issues issue.event request) {relay : RelayState}
    (hrelay : world.relays[index]? = some relay)
    (hinst : request.stateInstance = relay.stateInstance) : issuer = index := by
  cases hissuer : world.relays[issuer]? with
  | none =>
    rw [hworld.missing issuer hissuer] at hissue
    exact absurd hissue not_mem_nil
  | some other =>
    have hother := (hworld.history issuer other hissuer).same_instance hissue hissues
    exact hworld.distinct issuer index other relay hissuer hrelay (hother.symm.trans hinst)

/-- A request that lost its worth is refused.  The relay is as it was, or the live allocation at
the tuple of the request has been pruned. -/
theorem stale_request_is_refused (hmac : List UInt8 → List UInt8 → Bytes 32)
    (calls : List WorldCall) {before between after : List (Step RelayWorld WorldEvent)}
    {issue use : Step RelayWorld WorldEvent} {issuer index : Nat} {given used : RelayEvent}
    {request : AuthenticatedRequest} {relay : RelayState}
    (htrace : (worldMachine hmac).trace .start calls = (before ++ issue :: between) ++ use :: after)
    (hissue : issue.event = .called issuer given) (hissues : Issues given request)
    (huse : use.event = .called index used) (hrequest : used.call.request = some request)
    (hrelay : use.pre.relays[index]? = some relay)
    (hlost : LostWorth ((worldMachine hmac).trace .start calls) between issuer index relay used
      request) :
    (∃ error, used.result = .error error) ∧ use.post.issued = use.pre.issued ∧
      ∃ relay', use.post.relays = use.pre.relays.set index relay' ∧
        Looks request.tuple used.now relay relay' := by
  obtain ⟨earlier, call, _, _, hearlier, rfl, _⟩ :=
    (worldMachine hmac).trace_eq_append_cons htrace
  have hworld := consistent_of_run hmac earlier
  rw [← hearlier] at hworld
  obtain ⟨_, hfnd, hsame, hpost⟩ := called_of_event huse
  rw [stepAt_pre] at hrelay
  rw [hrelay] at hfnd
  cases hfnd
  obtain ⟨given', hgiven', rfl⟩ : ∃ given', relayStep issuer issue = some given' ∧
      given'.event = given := by
    obtain ⟨_, _, _, _, _, rfl, _⟩ := (worldMachine hmac).trace_eq_append_cons hearlier.symm
    exact relayStep_of_event hissue
  have hmem : given' ∈ relayTrace issuer (before ++ issue :: between) :=
    mem_filterMap.2 ⟨issue, mem_append_right _ mem_cons_self, hgiven'⟩
  have hafter : ∀ step ∈ relayTrace issuer between, ∃ h₁ h₂,
      relayTrace issuer (before ++ issue :: between) = h₁ ++ step :: h₂ ∧ given' ∈ h₁ := by
    intro step hstep
    obtain ⟨h₁, h₂, heq⟩ := append_of_mem hstep
    refine ⟨relayTrace issuer before ++ given' :: h₁, h₂, ?_, mem_append_right _ mem_cons_self⟩
    rw [relayTrace, filterMap_append, filterMap_cons_some hgiven', ← relayTrace, ← relayTrace,
      heq, append_assoc, cons_append]
  have href : ∀ alloc, ¬Authorizes relay request used.now alloc := by
    by_cases hidx : issuer = index
    · subst hidx
      have hhist := hworld.history issuer relay hrelay
      cases hlost with
      | elsewhere hne => exact absurd rfl hne
      | ended hended =>
        have hgone := gone_of_not_live (hhist.issued hmem hissues) hended
        exact hgone.not_authorizes (UInt64.le_refl _)
      | gone horder hstep hlive =>
        obtain ⟨h₁, h₂, heq, hgivenMem⟩ := hafter _ hstep
        -- The call that uses the request comes after the step.
        obtain ⟨_, huse', rfl⟩ := relayStep_of_event huse
        rw [htrace, relayTrace, filterMap_append, filterMap_cons_some huse', ← relayTrace,
          heq] at horder
        have hpast := (pairwise_append.1 horder).2.2 _
          (mem_append_right _ mem_cons_self) _ mem_cons_self
        exact not_authorizes_after (heq ▸ hhist) hgivenMem hissues
          (.inl ⟨(pairwise_append.1 horder).1, hpast, hlive⟩)
      | rotated hstep hrotates =>
        obtain ⟨_, _, heq, hgivenMem⟩ := hafter _ hstep
        exact not_authorizes_after (heq ▸ hhist) hgivenMem hissues (.inr hrotates)
    · exact fun _ hauth => hidx (hworld.issuer_eq hmem hissues hrelay hauth.same_instance)
  obtain ⟨⟨error, herror⟩, hlooks⟩ : (∃ error, (used.call.perform hmac used.now relay).1 =
      .error error) ∧ Looks request.tuple used.now relay _ :=
    refused_of_not_authorizes hrequest href
  refine ⟨⟨error, ?_⟩, ?_, _, ?_, hlooks⟩
  · rw [hsame]
    exact herror
  · rw [stepAt_post, hpost, RelayWorld.answered, herror]
    exact append_nil _
  · rw [stepAt_post, hpost]
    rfl

/-! A request that is used again after a change of the nonce, when the permission that it made the
first time is over. -/

def sampleUsed : AuthenticatedRequest := sampleRequest sampleTuple samplePermission

/-- The program after its first `count` calls. -/
def sampleWorld (count : Nat) (calls : List WorldCall) : RelayWorld :=
  (worldMachine sampleHmac).run .start (calls.take count)

def sampleReplay : List WorldCall :=
  [.new default {}, .on 0 10 (.create sampleTuple sampleCredentials sampleRelay none),
    .on 0 20 (.authenticateRequest sampleTuple samplePermission),
    .on 0 30 (.createPermissions sampleUsed), .on 0 40 (.rotateNonce sampleUsed [100]),
    .on 0 400 (.createPermissions sampleUsed)]

/-- The permissions that the allocation of the sample stores. -/
def storedPermissions (relay : RelayState) : Option Nat :=
  (relay.allocations.lookup sampleTuple).map fun allocation => allocation.permissions.length

/-- The second use fails, and the stored permissions change. -/
theorem stale_use_drops_a_permission :
    ((worldMachine sampleHmac).trace .start sampleReplay).map (·.event) =
        [.made (.ok ()),
          .called 0 ⟨10, .create sampleTuple sampleCredentials sampleRelay none,
            .ok (.allocation ⟨sampleRelay, 610⟩)⟩,
          .called 0 ⟨20, .authenticateRequest sampleTuple samplePermission,
            .ok (.authenticated sampleUsed)⟩,
          .called 0 ⟨30, .createPermissions sampleUsed, .ok .done⟩,
          .called 0 ⟨40, .rotateNonce sampleUsed [100], .ok .done⟩,
          .called 0 ⟨400, .createPermissions sampleUsed, .error .staleNonce⟩] ∧
      (sampleWorld 5 sampleReplay).relays.map storedPermissions = [some 1] ∧
      (sampleWorld 6 sampleReplay).relays.map storedPermissions = [some 0] := by
  decide +kernel

/-- The same use, refused because the nonce was changed. -/
theorem sample_is_refused : ∃ used relay relay',
    ((worldMachine sampleHmac).step (sampleWorld 5 sampleReplay)
        (.on 0 400 (.createPermissions sampleUsed))).1 = .called 0 used ∧
      (∃ error, used.result = .error error) ∧
      (sampleWorld 5 sampleReplay).relays[0]? = some relay ∧
      Looks sampleTuple 400 relay relay' := by
  have hrotate : ((worldMachine sampleHmac).step (sampleWorld 4 sampleReplay)
      (.on 0 40 (.rotateNonce sampleUsed [100]))).1 =
        .called 0 ⟨40, .rotateNonce sampleUsed [100], .ok .done⟩ := by
    decide +kernel
  have huse : ((worldMachine sampleHmac).step (sampleWorld 5 sampleReplay)
      (.on 0 400 (.createPermissions sampleUsed))).1 =
        .called 0 ⟨400, .createPermissions sampleUsed, .error .staleNonce⟩ := by
    decide +kernel
  obtain ⟨relay, hrelay, _⟩ := called_of_event huse
  obtain ⟨rotated, hstep, hev⟩ := relayStep_of_event hrotate
  obtain ⟨href, _, relay', _, hsame⟩ := @stale_request_is_refused sampleHmac sampleReplay [_, _]
    [_, _] [] _ _ 0 0 ⟨20, .authenticateRequest sampleTuple samplePermission,
      .ok (.authenticated sampleUsed)⟩ _ sampleUsed relay rfl (by decide +kernel) rfl huse rfl
    hrelay
    (.rotated (mem_filterMap.2 ⟨_, mem_cons_of_mem _ mem_cons_self, hstep⟩)
      ⟨sampleUsed, [100], .done, congrArg RelayEvent.call hev, congrArg RelayEvent.result hev, rfl,
        rfl⟩)
  exact ⟨_, relay, relay', huse, href, hrelay, hsame⟩

end LatencyDesk.TurnRelay
