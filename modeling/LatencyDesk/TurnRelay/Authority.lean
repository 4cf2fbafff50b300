import LatencyDesk.Lib.Since
import LatencyDesk.TurnRelay.Calls

/-!
# What a request is worth

A request carries the number of the relay, the incarnation of the allocation and
the generation of its credentials.  Only the relay gives requests out, so every
request that a call uses and that carries the relay's number was given out by an
earlier call (`Sealed`).

Incarnations are never used twice, and the generation of an allocation only
grows.  So `Issued` holds of every request of the relay: its generation is at
most the one of its allocation, and as long as the two are equal the request is
authentic for the allocation, with the nonce that the allocation has now.

A request that is outdated, or whose allocation is gone, stays so.
-/

namespace LatencyDesk.TurnRelay

open Lib Protocol RelayState Nat

/-- The integrity of the request was verified under the key of the allocation, and its names and
nonce are the ones of the allocation. -/
structure Authentic (hmac : List UInt8 → List UInt8 → Bytes 32) (allocation : Allocation)
    (request : AuthenticatedRequest) : Prop where
  verified : ∃ encodedRequest, verifyIntegrity hmac encodedRequest
    allocation.credentials.integrityKey.toList = .ok request.verified
  credentials : requestCredentials request.message = .ok
    { username := allocation.credentials.username, realm := allocation.credentials.realm,
      nonce := allocation.credentials.nonce }

/-- The call gave the request out. -/
def Issues (event : RelayEvent) (request : AuthenticatedRequest) : Prop :=
  event.result = .ok (.authenticated request)

/-- A request with the number of the relay that a call uses was given out before. -/
def Sealed (h : RelayTrace) : Prop :=
  Throughout (fun earlier step => ∀ request, step.event.call.request = some request →
    request.stateInstance = step.pre.stateInstance →
    ∃ issue ∈ earlier, Issues issue.event request) h

/-- The allocation at the key has the incarnation. -/
def HasIncarnation (s : RelayState) (key : UdpTuple) (incarnation : UInt64)
    (allocation : Allocation) : Prop :=
  s.allocations.lookup key = some allocation ∧ allocation.incarnation = incarnation

/-- What holds of a request that the relay gave out. -/
structure Issued (hmac : List UInt8 → List UInt8 → Bytes 32) (s : RelayState)
    (request : AuthenticatedRequest) : Prop where
  old : request.allocationIncarnation.toNat ≤ s.nextIncarnation.toNat
  generation : ∀ allocation,
    HasIncarnation s request.tuple request.allocationIncarnation allocation →
    request.credentialGeneration.toNat ≤ allocation.credentialGeneration.toNat
  authentic : ∀ allocation,
    HasIncarnation s request.tuple request.allocationIncarnation allocation →
    allocation.credentialGeneration = request.credentialGeneration →
    Authentic hmac allocation request

variable {hmac : List UInt8 → List UInt8 → Bytes 32} {s t : RelayState} {now : UInt64}
  {call : RelayCall} {res : Except StateError Reply} {request : AuthenticatedRequest}
  {key : UdpTuple}

/-- The generation of an allocation grows, and with it only the nonce changes. -/
theorem Touch.credentials {alloc written : Allocation}
    (h : Touch s now call key alloc written) :
    written.credentials = alloc.credentials ∧
        written.credentialGeneration = alloc.credentialGeneration ∨
      alloc.credentialGeneration.toNat < written.credentialGeneration.toNat := by
  cases h with
  | rotated _ _ hgen =>
    dsimp only
    omega
  | refreshed | permitted | bound | accounted => exact .inl ⟨rfl, rfl⟩

/-- An old incarnation after a call was there before it. -/
theorem HasIncarnation.before {incarnation : UInt64} {after : Allocation}
    (heff : Effect s now call res t) (hold : incarnation.toNat ≤ s.nextIncarnation.toNat)
    (h : HasIncarnation t key incarnation after) :
    ∃ alloc, HasIncarnation s key incarnation alloc ∧
      (after = alloc ∨ (now < alloc.expiresAt ∧
        (after = alloc.pruneChildren now ∨
          ((∃ reply, res = .ok reply) ∧ Touch s now call key alloc after)))) := by
  rcases heff.origin h.1 with ⟨_, _, _, hafter, hnext⟩ | ⟨alloc, hlook, hchange⟩
  · -- A new allocation has a number that was never used.
    have hinc : t.nextIncarnation = incarnation := by
      rw [← h.2, hafter]
      rfl
    rw [hinc] at hnext
    omega
  · refine ⟨alloc, ⟨hlook, ?_⟩, hchange⟩
    rw [← h.2]
    rcases hchange with rfl | ⟨_, rfl | ⟨_, htouch⟩⟩
    · rfl
    · rfl
    · exact htouch.identity.1.symm

theorem Issued.effect (h : Issued hmac s request) (heff : Effect s now call res t) :
    Issued hmac t request := by
  have hnext := heff.nextIncarnation_le
  refine ⟨le_trans h.old hnext, ?_, ?_⟩
  · intro after hafter
    obtain ⟨alloc, halloc, hchange⟩ := hafter.before heff h.old
    have hgen := h.generation alloc halloc
    rcases hchange with rfl | ⟨_, rfl | ⟨_, htouch⟩⟩
    · exact hgen
    · exact hgen
    rcases htouch.credentials with ⟨_, hsame⟩ | hgrown
    · rw [hsame]
      exact hgen
    · omega
  · intro after hafter hequal
    obtain ⟨alloc, halloc, hchange⟩ := hafter.before heff h.old
    have hgen := h.generation alloc halloc
    have hauthentic := h.authentic alloc halloc
    rcases hchange with rfl | ⟨_, rfl | ⟨_, htouch⟩⟩
    · exact hauthentic hequal
    · exact { hauthentic hequal with }
    rcases htouch.credentials with ⟨hsame, hsame'⟩ | hgrown
    · have hbef := hauthentic (by rw [← hsame', hequal])
      exact ⟨by rw [hsame]; exact hbef.verified, by rw [hsame]; exact hbef.credentials⟩
    · rw [hequal] at hgrown
      omega

/-! ## Giving requests out -/

/-- Every allocation has a number that was given out. -/
def Numbered (s : RelayState) : Prop :=
  ∀ key allocation, s.allocations.lookup key = some allocation →
    allocation.incarnation.toNat ≤ s.nextIncarnation.toNat

theorem Numbered.effect (h : Numbered s) (heff : Effect s now call res t) : Numbered t := by
  intro key after hlook
  have hnext := heff.nextIncarnation_le
  rcases heff.origin hlook with ⟨_, _, _, hafter, _⟩ | ⟨alloc, hfnd, hchange⟩
  · rw [hafter]
    exact le_refl _
  have hnum := h key alloc hfnd
  have hinc : after.incarnation = alloc.incarnation := by
    rcases hchange with rfl | ⟨_, rfl | ⟨_, htouch⟩⟩
    · rfl
    · rfl
    · exact htouch.identity.1
  rw [hinc]
  omega

/-- Only `authenticateRequest` gives a request out. -/
theorem call_of_authenticated
    (h : call.perform hmac now s = (.ok (.authenticated request), t)) :
    ∃ key encodedRequest,
      RelayState.authenticateRequest hmac key encodedRequest now s = (.ok request, t) := by
  cases call <;> obtain ⟨_, hanswer, heq⟩ := Fallible.map_ok.1 h <;> cases heq
  exact ⟨_, _, hanswer⟩

theorem Issued.of_authenticated (hnumd : Numbered s)
    (h : call.perform hmac now s = (.ok (.authenticated request), t)) : Issued hmac t request := by
  obtain ⟨_, encodedRequest, hreq⟩ := call_of_authenticated h
  obtain ⟨alloc, hlook, _, hver, hcreds, _, rfl, hinc, hgen, rfl⟩ := authenticateRequest_ok hreq
  -- The allocation after the call is the one that the request was checked against.
  have hfnd : ∀ after, HasIncarnation (s.put request.tuple (alloc.pruneChildren now))
      request.tuple request.allocationIncarnation after → after = alloc.pruneChildren now := by
    intro after ⟨hafter, _⟩
    rw [lookup_put hlook, if_pos rfl] at hafter
    exact (Option.some.inj hafter).symm
  refine ⟨?_, ?_, ?_⟩
  · rw [hinc]
    exact hnumd request.tuple alloc hlook
  · intro after hafter
    rw [hfnd after hafter, hgen]
    exact le_refl _
  · intro after hafter _
    rw [hfnd after hafter]
    exact ⟨⟨encodedRequest, hver⟩, hcreds⟩

/-- What a run leaves of the requests that it gave out. -/
theorem issued_of_run {first : RelayState} (hfirst : first.allocations = ∅)
    {calls : List (UInt64 × RelayCall)} :
    Numbered ((relayMachine hmac).run first calls) ∧
      ∀ issue ∈ (relayMachine hmac).trace first calls, ∀ request,
        Issues issue.event request → Issued hmac ((relayMachine hmac).run first calls) request := by
  refine (relayMachine hmac).trace_induction (P := fun h s => Numbered s ∧
    ∀ issue ∈ h, ∀ request, Issues issue.event request → Issued hmac s request) ?_ ?_ calls
  · refine ⟨?_, fun issue hissue => absurd hissue List.not_mem_nil⟩
    intro key alloc hlook
    rw [hfirst] at hlook
    cases hlook
  · intro h s timed ⟨hnumd, hiss⟩
    have heff := perform_effect hmac s timed.1 timed.2
    refine ⟨hnumd.effect heff, ?_⟩
    intro issue hissue request hissues
    rw [List.mem_append, List.mem_singleton] at hissue
    rcases hissue with hbef | rfl
    · exact (hiss issue hbef request hissues).effect heff
    · exact Issued.of_authenticated hnumd (Prod.ext hissues rfl)

/-! ## Requests that are worth nothing -/

/-- The credentials of the allocation changed after the request was given out. -/
def Outdated (s : RelayState) (request : AuthenticatedRequest) : Prop :=
  request.allocationIncarnation.toNat ≤ s.nextIncarnation.toNat ∧
    ∀ allocation, HasIncarnation s request.tuple request.allocationIncarnation allocation →
      request.credentialGeneration.toNat < allocation.credentialGeneration.toNat

/-- The allocation of the request was removed, or it is over. -/
def Gone (now : UInt64) (s : RelayState) (request : AuthenticatedRequest) : Prop :=
  request.allocationIncarnation.toNat ≤ s.nextIncarnation.toNat ∧
    ∀ allocation, HasIncarnation s request.tuple request.allocationIncarnation allocation →
      allocation.expiresAt ≤ now

theorem Outdated.effect (h : Outdated s request) (heff : Effect s now call res t) :
    Outdated t request := by
  refine ⟨le_trans h.1 heff.nextIncarnation_le, ?_⟩
  intro after hafter
  obtain ⟨alloc, halloc, hchange⟩ := hafter.before heff h.1
  have hgen := h.2 alloc halloc
  rcases hchange with rfl | ⟨_, rfl | ⟨_, htouch⟩⟩
  · exact hgen
  · exact hgen
  rcases htouch.credentials with ⟨_, hsame⟩ | hgrown
  · rw [hsame]
    exact hgen
  · omega

variable {later : UInt64}

/-- Only a live allocation changes, so what is over stays over. -/
theorem Gone.effect (h : Gone now s request) (hle : now ≤ later)
    (heff : Effect s later call res t) : Gone now t request := by
  refine ⟨le_trans h.1 heff.nextIncarnation_le, ?_⟩
  intro after hafter
  obtain ⟨alloc, halloc, hchange⟩ := hafter.before heff h.1
  have hover := h.2 alloc halloc
  rcases hchange with rfl | ⟨hlive, _⟩
  · exact hover
  · exact absurd (UInt64.le_trans hover hle) (UInt64.not_le.2 hlive)

theorem Outdated.not_authorizes (h : Outdated s request) (alloc : Allocation) :
    ¬Authorizes s request now alloc := by
  intro hauth
  have hgen := h.2 alloc ⟨hauth.found, hauth.incarnation⟩
  rw [hauth.generation] at hgen
  exact lt_irrefl _ hgen

theorem Gone.not_authorizes (h : Gone now s request) (hle : now ≤ later) (alloc : Allocation) :
    ¬Authorizes s request later alloc := by
  intro hauth
  have hover := h.2 alloc ⟨hauth.found, hauth.incarnation⟩
  exact absurd (UInt64.le_trans hover hle) (UInt64.not_le.2 hauth.live)

variable (hreq : call.request = some request)

include hreq

/-- A call that uses a request succeeds only when the request is one of the allocation. -/
theorem authorizes_of_ok {reply : Reply}
    (h : call.perform hmac now s = (.ok reply, t)) :
    ∃ alloc, Authorizes s request now alloc := by
  cases call <;> cases hreq <;> obtain ⟨_, hanswer, _⟩ := Fallible.map_ok.1 h
  · obtain ⟨_, alloc, _, halloc, _⟩ := rotateNonce_ok hanswer
    exact ⟨alloc, halloc⟩
  · obtain ⟨alloc, halloc, _⟩ := refresh_ok hanswer
    exact ⟨alloc, halloc⟩
  · obtain ⟨alloc, _, _, halloc, _⟩ := createPermissions_ok hanswer
    exact ⟨alloc, halloc⟩
  · obtain ⟨alloc, _, _, _, _, _, _, halloc, _⟩ := bindChannel_ok hanswer
    exact ⟨alloc, halloc⟩

/-- Otherwise it fails, and has at most pruned the allocation at the key of the request. -/
theorem refused_of_not_authorizes
    (h : ∀ alloc, ¬Authorizes s request now alloc) :
    (∃ e, (call.perform hmac now s).1 = .error e) ∧
      Looks request.tuple now s (call.perform hmac now s).2 := by
  rcases hres : call.perform hmac now s with ⟨e | _, t⟩
  · refine ⟨⟨e, rfl⟩, perform_fails ?_ s e t hres⟩
    cases call <;> cases hreq <;> rfl
  · obtain ⟨alloc, halloc⟩ := authorizes_of_ok hreq hres
    exact absurd halloc (h alloc)

end LatencyDesk.TurnRelay
