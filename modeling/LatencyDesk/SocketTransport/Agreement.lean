import LatencyDesk.SocketTransport.RouteEffect

/-!
# Two route sets over the same connections

Both endpoints hold a `ProductRouteSet` over the same two connections.  Each
connection has a control lane in each direction, first in, first out.  The
endpoints call the methods of their sets in any order, the timeouts wake up at
any time, and reads and writes fail at any time.  A connection that an endpoint
has closed loses what is under way on it.

The joint invariant is that of `Lib.Switchover`, read off both sets and all four
lanes.
-/

namespace LatencyDesk.SocketTransport

open Lib Lib.Switchover Protocol List Option ProductRouteSet

inductive Side where
  | client
  | host
deriving DecidableEq

def Side.peer : Side → Side
  | .client => .host
  | .host => .client

/-- Two endpoints and what is between them. -/
structure RouteWorld where
  sets : Side → ProductRouteSet
  /-- The records that a side has sent on a route and the other side has not read. -/
  lanes : Side → RouteIndex → List ControlRecord

/-- A call.  `arrives` says whether the read gets the next record of its lane; it
fails otherwise. -/
inductive RouteCall where
  | sendRouteTransition (side : Side) (message : RouteTransitionMessage) (write : WriteOutcome)
  | sendRollbackViaRetained (side : Side) (message : RouteTransitionMessage) (write : WriteOutcome)
  | nextRouteTransition (side : Side) (receiver : RouteIndex) (arrives : Bool) (during : Wait)
  | nextRouteActivation (side : Side) (receiver : RouteIndex) (arrives : Bool) (during : Wait)
  | nextRouteConfirmation (side : Side) (receiver : RouteIndex) (arrives : Bool)
  | failActiveRoute (side : Side)
  | close (side : Side)
  /-- A timeout of the set wakes up. -/
  | expire (side : Side) (ticket : UInt64)
  /-- A closed connection loses all but the first records of a lane. -/
  | lose (side : Side) (route : RouteIndex) (kept : Nat)

inductive RouteEvent where
  | quiet
  | returned (side : Side) (outcome : Outcome)

def RouteEvent.failedClosed : RouteEvent → Bool
  | .returned _ (.failedClosed _) => true
  | _ => false

namespace RouteWorld

def ofSets (sets : Side → ProductRouteSet) : RouteWorld :=
  { sets := sets, lanes := fun _ _ => [] }

/-- What a read of a route finds. -/
def inbound (world : RouteWorld) (side : Side) (receiver : RouteIndex) (arrives : Bool) : Inbound :=
  if arrives then
    match world.lanes side.peer receiver with
    | [] => .pending
    | record :: _ => .arrived record
  else
    .failed

def setSet (world : RouteWorld) (side : Side) (set : ProductRouteSet) : RouteWorld :=
  { world with sets := Function.update world.sets side set }

/-- The lanes after an operation of the side that has read the route `receiver`. -/
def lanesAfter (world : RouteWorld) (side : Side) (receiver : Option RouteIndex)
    (operation : Operation) (sender : Side) (route : RouteIndex) : List ControlRecord :=
  if sender = side then
    world.lanes sender route ++ (operation.sent.toList.filter (·.1 = route)).map (·.2)
  else if operation.consumed ∧ receiver = some route then
    (world.lanes sender route).tail
  else
    world.lanes sender route

def apply (world : RouteWorld) (side : Side) (receiver : Option RouteIndex)
    (operation : Operation) : RouteEvent × RouteWorld :=
  (.returned side operation.outcome,
    { world.setSet side operation.set with
      lanes := world.lanesAfter side receiver operation })

def isClosed (world : RouteWorld) (route : RouteIndex) : Bool :=
  ((world.sets .client).routes route).connectionClosed ||
    ((world.sets .host).routes route).connectionClosed

def step (world : RouteWorld) : RouteCall → RouteEvent × RouteWorld
  | .sendRouteTransition side message write =>
    world.apply side none ((world.sets side).sendRouteTransition message write)
  | .sendRollbackViaRetained side message write =>
    world.apply side none ((world.sets side).sendRollbackViaRetained message write)
  | .nextRouteTransition side receiver arrives during =>
    world.apply side (some receiver)
      ((world.sets side).nextRouteTransition receiver (world.inbound side receiver arrives) during)
  | .nextRouteActivation side receiver arrives during =>
    world.apply side (some receiver)
      ((world.sets side).nextRouteActivation receiver (world.inbound side receiver arrives) during)
  | .nextRouteConfirmation side receiver arrives =>
    world.apply side (some receiver)
      ((world.sets side).nextRouteConfirmation receiver (world.inbound side receiver arrives))
  | .failActiveRoute side => (.quiet, world.setSet side (world.sets side).failActiveRoute)
  | .close side => (.quiet, world.setSet side (world.sets side).close)
  | .expire side ticket => (.quiet, world.setSet side ((world.sets side).expire ticket))
  | .lose side route kept =>
    if world.isClosed route then
      (.quiet,
        { world with
          lanes := fun sender other =>
            if sender = side ∧ other = route then (world.lanes sender other).take kept
            else world.lanes sender other })
    else
      (.quiet, world)

end RouteWorld

def routeMachine : Machine RouteWorld RouteCall RouteEvent where
  step := RouteWorld.step

/-! ## The joint invariant -/

variable {set : ProductRouteSet}

namespace RouteWorld

variable {world : RouteWorld} {start : Nat}

def letters (world : RouteWorld) (side : Side) : List (Letter Digests) :=
  (world.lanes side 0).filterMap (recordLetter 0) ++ (world.lanes side 1).filterMap (recordLetter 1)

variable {side : Side} {sets : Side → ProductRouteSet}

theorem mem_letters {letter : Letter Digests} :
    letter ∈ world.letters side ↔
      ∃ route, ∃ record ∈ world.lanes side route, recordLetter route record = some letter := by
  simp only [letters, mem_append, mem_filterMap]
  constructor
  · rintro (h | h)
    · exact ⟨0, h⟩
    · exact ⟨1, h⟩
  · rintro ⟨route, h⟩
    match route with
    | 0 => exact .inl h
    | 1 => exact .inr h

theorem letters_subset {world' : RouteWorld}
    (h : ∀ side route, world'.lanes side route ⊆ world.lanes side route) :
    world'.letters side ⊆ world.letters side := by
  intro letter hlet
  obtain ⟨route, record, hrec, heq⟩ := mem_letters.1 hlet
  exact mem_letters.2 ⟨route, record, h side route hrec, heq⟩

/-- Both sets with their letters, seen from either side. -/
def Together (start : Nat) (world : RouteWorld) : Prop :=
  ∀ side : Side, Joint start (world.sets side).party (world.sets side.peer).party
    (world.letters side) (world.letters side.peer)

theorem together_of_side
    (h : Joint start (world.sets side).party (world.sets side.peer).party (world.letters side)
      (world.letters side.peer)) : world.Together start := by
  intro other
  cases side <;> cases other
  · exact h
  · exact h.symm
  · exact h.symm
  · exact h

section

variable (world : RouteWorld) (side : Side) (set : ProductRouteSet)

theorem sets_setSet_peer :
    (world.setSet side set).sets side.peer = world.sets side.peer := by
  cases side <;> rfl

theorem sets_setSet_self :
    (world.setSet side set).sets side = set := by
  simp [setSet]

variable (receiver : Option RouteIndex) (operation : Operation)

/-- The letters of the acting side grow by the letter that it sends. -/
theorem letters_apply_self :
    (world.apply side receiver operation).2.letters side ⊆
      world.letters side ++ (letterOf operation.sent).toList := by
  intro letter hlet
  obtain ⟨route, record, hrec, heq⟩ := mem_letters.1 hlet
  have hlane : record ∈ world.lanes side route ++
      (operation.sent.toList.filter (·.1 = route)).map (·.2) := by
    simpa [apply, lanesAfter] using hrec
  rcases mem_append.1 hlane with hold | hnew
  · exact mem_append_left _ (mem_letters.2 ⟨route, record, hold, heq⟩)
  obtain ⟨_, hrouted, rfl⟩ := mem_map.1 hnew
  obtain ⟨hsent, hrt⟩ := mem_filter.1 hrouted
  refine mem_append_right _ ?_
  rw [mem_toList] at hsent ⊢
  rw [letterOf, hsent, bind_some, of_decide_eq_true hrt]
  exact heq

/-- The letters of the other side do not grow. -/
theorem letters_apply_peer :
    (world.apply side receiver operation).2.letters side.peer ⊆ world.letters side.peer := by
  intro letter hlet
  obtain ⟨route, record, hrec, heq⟩ := mem_letters.1 hlet
  have hpeer : side.peer ≠ side := by cases side <;> decide
  refine mem_letters.2 ⟨route, record, ?_, heq⟩
  simp only [apply, lanesAfter, if_neg hpeer] at hrec
  split_ifs at hrec
  · exact mem_of_mem_tail hrec
  · exact hrec

end

/-- A record that a read gets is in the lane. -/
theorem mem_lane_of_inbound {receiver : RouteIndex} {arrives : Bool} {record : ControlRecord}
    (h : (world.inbound side receiver arrives).record? = some record) :
    record ∈ world.lanes side.peer receiver := by
  unfold inbound at h
  split_ifs at h
  · split at h
    · cases h
    next hlane =>
    cases h
    rw [hlane]
    exact mem_cons_self ..
  · cases h

def Coherent (world : RouteWorld) : Prop := ∀ side, (world.sets side).Coherent

section

variable (h : world.Coherent)

include h

theorem Coherent.setSet (hset : set.Coherent) :
    (world.setSet side set).Coherent := by
  intro other
  by_cases hoth : other = side
  · subst hoth
    rw [sets_setSet_self]
    exact hset
  · simp only [RouteWorld.setSet, Function.update_of_ne hoth]
    exact h other

/-- One step keeps both sets coherent, and it fails closed or keeps them
together. -/
structure Keeps (start : Nat) (world : RouteWorld) (answer : RouteEvent × RouteWorld) : Prop where
  coherent : answer.2.Coherent
  together : answer.1.failedClosed = true ∨ (world.Together start → answer.2.Together start)

/-- An operation of a set, with a record that is under way to it or without one. -/
theorem keeps_apply {receiver : Option RouteIndex}
    {arrived : Option (RouteIndex × ControlRecord)} {operation : Operation}
    (heff : (world.sets side).Effect arrived operation)
    (harrived : ∀ route record, arrived = some (route, record) →
      record ∈ world.lanes side.peer route) :
    Keeps start world (world.apply side receiver operation) := by
  refine ⟨h.setSet heff.coherent, ?_⟩
  rcases heff.step with ⟨_, hfailed⟩ | ⟨took, htook, hact⟩
  · simp [apply, hfailed, RouteEvent.failedClosed]
  refine .inr fun htog => ?_
  have hrecv : ∀ letter, took = some letter → letter ∈ world.letters side.peer := by
    intro letter hlet
    rcases htook with hnone | hsome
    · rw [hnone] at hlet
      cases hlet
    rw [hsome] at hlet
    obtain ⟨⟨route, record⟩, hrouted, heq⟩ := bind_eq_some_iff.1 hlet
    exact mem_letters.2 ⟨route, record, harrived route record hrouted, heq⟩
  have hjoint := ((htog side).act hact hrecv).mono
    (world.letters_apply_self side receiver operation)
    (world.letters_apply_peer side receiver operation)
  have hself : (world.apply side receiver operation).2.sets side = operation.set :=
    world.sets_setSet_self side operation.set
  have hpeer : (world.apply side receiver operation).2.sets side.peer = world.sets side.peer :=
    world.sets_setSet_peer side operation.set
  rw [← hself, ← hpeer] at hjoint
  exact together_of_side hjoint

/-- A set that was only revoked or closed takes the place of the set. -/
theorem keeps_revoked (hrev : (world.sets side).Revoked set) :
    Keeps start world (.quiet, world.setSet side set) := by
  refine ⟨h.setSet (hrev.coherent (h side)), .inr fun htog => ?_⟩
  have hjoint := htog side
  rw [← hrev.party_eq, ← world.sets_setSet_self side set, ← world.sets_setSet_peer side set]
    at hjoint
  exact together_of_side hjoint

theorem keeps_step (call : RouteCall) :
    Keeps start world (world.step call) := by
  have harrived : ∀ side receiver arrives route record,
      (world.inbound side receiver arrives).record?.map (receiver, ·) = some (route, record) →
      record ∈ world.lanes side.peer route := by
    intro side receiver arrives route record heq
    obtain ⟨_, hfnd, hpair⟩ := map_eq_some_iff.1 heq
    cases hpair
    exact mem_lane_of_inbound hfnd
  have hnone : ∀ side route record, (none : Option (RouteIndex × ControlRecord)) =
      some (route, record) → record ∈ world.lanes side route := nofun
  cases call with
  | sendRouteTransition side msg write =>
    exact keeps_apply h (effect_sendRouteTransition (h side) msg write) (hnone side.peer)
  | sendRollbackViaRetained side msg write =>
    exact keeps_apply h (effect_sendRollbackViaRetained (h side) msg write) (hnone side.peer)
  | nextRouteTransition side receiver arrives during =>
    exact keeps_apply h (effect_nextRouteTransition (h side) receiver _ during)
      (harrived side receiver arrives)
  | nextRouteActivation side receiver arrives during =>
    exact keeps_apply h (effect_nextRouteActivation (h side) receiver _ during)
      (harrived side receiver arrives)
  | nextRouteConfirmation side receiver arrives =>
    exact keeps_apply h (effect_nextRouteConfirmation (h side) receiver _)
      (harrived side receiver arrives)
  | failActiveRoute side => exact keeps_revoked h revoked_failActiveRoute
  | close side => exact keeps_revoked h revoked_close
  | expire side ticket => exact keeps_revoked h (revoked_expire _ ticket)
  | lose side route kept =>
    simp only [step]
    split_ifs
    · have hlanes : ∀ sender other, (if sender = side ∧ other = route then
          (world.lanes sender other).take kept else world.lanes sender other) ⊆
          world.lanes sender other := by
        intro sender other
        split_ifs
        · exact take_subset _ _
        · exact List.Subset.refl _
      exact ⟨h, .inr fun htog => together_of_side ((htog side).mono
        (letters_subset hlanes) (letters_subset hlanes))⟩
    · exact ⟨h, .inr id⟩

end

/-! ## Agreement -/

variable (h : ∀ side, (sets side).Fresh)

include h in
theorem coherent_ofSets :
    (ofSets sets).Coherent :=
  fun side => (h side).start.1

variable (hstamp : (sets .client).stamp = (sets .host).stamp)

include hstamp h in
theorem together_ofSets :
    (ofSets sets).Together (sets .client).stamp.routeEpoch.toNat := by
  obtain ⟨_, hclient, hparty⟩ := (h .client).start
  obtain ⟨_, hhost, hparty'⟩ := (h .host).start
  have hjoint := joint_fresh (sets .client).stamp.routeEpoch.toNat hclient hhost
  rw [← hparty, hstamp, ← hparty', ← hstamp] at hjoint
  have hside : Joint (sets .client).stamp.routeEpoch.toNat ((ofSets sets).sets .client).party
      ((ofSets sets).sets .host).party ((ofSets sets).letters .client)
      ((ofSets sets).letters .host) := hjoint
  exact together_of_side hside

include hstamp h in
/-- In every run both sets stay coherent, and unless an operation has failed
closed they are together. -/
theorem coherent_and_together_run (calls : List RouteCall) :
    (routeMachine.run (ofSets sets) calls).Coherent ∧
      ((∃ step ∈ routeMachine.trace (ofSets sets) calls, step.event.failedClosed = true) ∨
        (routeMachine.run (ofSets sets) calls).Together (sets .client).stamp.routeEpoch.toNat) := by
  refine routeMachine.trace_induction
    (P := fun steps world => world.Coherent ∧ ((∃ step ∈ steps, step.event.failedClosed = true) ∨
      world.Together (sets .client).stamp.routeEpoch.toNat))
    ⟨coherent_ofSets h, .inr (together_ofSets h hstamp)⟩ ?_ calls
  rintro steps world call ⟨hcoh, hstate⟩
  have hkeeps : Keeps (sets .client).stamp.routeEpoch.toNat world (world.step call) :=
    keeps_step hcoh call
  refine ⟨hkeeps.coherent, ?_⟩
  rcases hstate with ⟨step, hstep, hfailed⟩ | htog
  · exact .inl ⟨step, mem_append_left _ hstep, hfailed⟩
  rcases hkeeps.together with hfailed | hkept
  · exact .inl ⟨_, mem_append_right _ (mem_singleton_self _), hfailed⟩
  · exact .inr (hkept htog)

end RouteWorld

/-- No transition is under way at the set. -/
def ProductRouteSet.Idle (set : ProductRouteSet) : Prop :=
  set.activation = .idle ∧ set.transitionRoute = none

theorem ProductRouteSet.Idle.not_awaits (h : set.Idle) :
    ¬ set.party.Awaits := by
  rintro ⟨_, hwait⟩
  simp [party, h.1, RouteActivationState.promotion] at hwait

/-- In every run of two route sets over the same connections: only the active
route of a set is authorized, both routes of a set have the same epoch and
sequence number, and two idle sets agree on the active route, the epoch and the
sequence number unless an operation has failed closed.  Two idle sets agree even
while records are under way. -/
theorem route_sets_agree (sets : Side → ProductRouteSet) (hfresh : ∀ side, (sets side).Fresh)
    (hstamp : (sets .client).stamp = (sets .host).stamp) (calls : List RouteCall) :
    let world := routeMachine.run (.ofSets sets) calls
    (∀ side route, ((world.sets side).routes route).routeAuthorized = true →
      route = (world.sets side).active) ∧
    (∀ side, ((world.sets side).routes 0).routeEpoch = ((world.sets side).routes 1).routeEpoch ∧
      ((world.sets side).routes 0).routeSequence = ((world.sets side).routes 1).routeSequence) ∧
    ((∀ step ∈ routeMachine.trace (.ofSets sets) calls, step.event.failedClosed = false) →
      (∀ side, (world.sets side).Idle) →
      (world.sets .client).active = (world.sets .host).active ∧
      ∀ route,
        ((world.sets .client).routes route).routeEpoch =
          ((world.sets .host).routes route).routeEpoch ∧
        ((world.sets .client).routes route).routeSequence =
          ((world.sets .host).routes route).routeSequence) := by
  intro world
  obtain ⟨hcoh, hstate⟩ := RouteWorld.coherent_and_together_run hfresh hstamp calls
  refine ⟨?_, ?_, ?_⟩
  · intro side route hauthd
    by_contra hne
    rw [eq_other_of_ne hne, (hcoh side).guarded] at hauthd
    cases hauthd
  · intro side
    exact ⟨((hcoh side).epochs 1).symm, ((hcoh side).sequences 1).symm⟩
  · intro hclosed hidle
    have htog : world.Together (sets .client).stamp.routeEpoch.toNat := by
      rcases hstate with ⟨step, hstep, hfailed⟩ | htog
      · rw [hclosed step hstep] at hfailed
        cases hfailed
      · exact htog
    have hjoint := htog .client
    have hclient := (hidle .client).not_awaits
    have hhost := (hidle .host).not_awaits
    refine ⟨hjoint.active_eq hclient hhost, fun route => ⟨?_, ?_⟩⟩
    · rw [(hcoh .client).epochs, (hcoh .host).epochs]
      exact UInt64.toNat_inj.1 (hjoint.epoch_eq hclient hhost)
    · rw [(hcoh .client).sequences, (hcoh .host).sequences]
      exact UInt64.toNat_inj.1 (hjoint.sequence_eq hclient hhost)

/-- A complete exchange that the client starts. -/
def sampleExchange : List RouteCall :=
  [.sendRouteTransition .client (sampleMessage .prepare) .written,
    .nextRouteTransition .host 0 true ⟨.written, []⟩,
    .sendRouteTransition .host (sampleMessage .prepared) .written,
    .nextRouteTransition .client 0 true ⟨.written, []⟩,
    .sendRouteTransition .client (sampleMessage .commit) .written,
    .nextRouteTransition .host 0 true ⟨.written, []⟩,
    .nextRouteActivation .client 1 true ⟨.written, []⟩,
    .nextRouteConfirmation .host 1 true]

/-- After the exchange both sets have moved to the other route. -/
theorem sample_exchange_agrees :
    let world := routeMachine.run (.ofSets fun _ => sampleSet) sampleExchange
    (world.sets .client).active = 1 ∧
      (world.sets .client).active = (world.sets .host).active ∧
      ∀ route, ((world.sets .client).routes route).routeEpoch =
          ((world.sets .host).routes route).routeEpoch ∧
        ((world.sets .client).routes route).routeSequence =
          ((world.sets .host).routes route).routeSequence := by
  refine ⟨by decide +kernel, (route_sets_agree (fun _ => sampleSet) (fun _ => sampleSet_fresh) rfl
    sampleExchange).2.2 (by decide +kernel) ?_⟩
  intro side
  cases side
  all_goals exact ⟨by decide +kernel, by decide +kernel⟩

end LatencyDesk.SocketTransport
