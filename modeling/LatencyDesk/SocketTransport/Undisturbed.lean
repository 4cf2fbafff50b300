import LatencyDesk.SocketTransport.Progress

/-!
# Traffic that does not disturb the exchange

An endpoint that has sent or read the commit has the next route epoch on both of
its routes, and it goes on with the old route until it moves.  In between it is
ahead of its route.  What the peer has sent on the old route carries the old
epoch, and what the endpoint itself sends there carries the next one.

`stale_input_closes_the_session` is a run in which the client sends one input
before it reads the commit of the host, and the host reads it after it has sent
the commit.  The host takes the input for a violation of the protocol and closes
the connection.

`promotion_is_undisturbed` says that nothing else goes wrong.  When an endpoint
neither sends nor reads anything on its old route while it is ahead, and no step
of the exchange falls between the check of the authorization and the comparison
of the stamp in `next_input`, no call returns an error and no connection is
closed, in every interleaving of the exchange with media and input.
-/

namespace LatencyDesk.SocketTransport

open Lib Protocol Transport List Option Function TrafficWorld ProductRouteSet

/-! ## The condition -/

/-- The endpoint has advanced its route epoch and has not moved to the other route. -/
def TrafficWorld.Ahead (world : TrafficWorld) (base : UInt64) (side : Side) : Prop :=
  (world.sets side).active = 0 ∧ ((world.sets side).routes 0).routeEpoch ≠ base

instance (world : TrafficWorld) (base : UInt64) (side : Side) :
    Decidable (world.Ahead base side) :=
  inferInstanceAs (Decidable (_ ∧ _))

def InputState.isChecking : InputState → Bool
  | .checking _ => true
  | _ => false

/-- The calls that do not disturb an exchange from the epoch `base`. -/
def Undisturbing (base : UInt64) (world : TrafficWorld) : TrafficCall → Prop
  | .transition side => ∀ route, (world.receivers side route).isChecking = false
  | .written side => ∀ route, (world.receivers side route).isChecking = false
  | .sendInput side _ => ¬world.Ahead base side
  | .sendMedia side media =>
    ¬world.Ahead base side ∧ media.spec.flags &&& MediaFlags.parity = 0
  | .receiveMedia side _ _ _ => ¬world.Ahead base side
  | .nextInput side route => ¬(world.Ahead base side ∧ route = 0)
  | _ => True

instance (base : UInt64) (world : TrafficWorld) :
    (call : TrafficCall) → Decidable (Undisturbing base world call)
  | .transition side =>
    inferInstanceAs (Decidable (∀ route, (world.receivers side route).isChecking = false))
  | .written side =>
    inferInstanceAs (Decidable (∀ route, (world.receivers side route).isChecking = false))
  | .sendInput side _ => inferInstanceAs (Decidable (¬world.Ahead base side))
  | .sendMedia side media => inferInstanceAs (Decidable (¬world.Ahead base side ∧
      media.spec.flags &&& MediaFlags.parity = 0))
  | .receiveMedia side _ _ _ => inferInstanceAs (Decidable (¬world.Ahead base side))
  | .nextInput side route => inferInstanceAs (Decidable (¬(world.Ahead base side ∧ route = 0)))
  | .callMedia _ _ | .dropMedia _ _ | .dropInput _ _ => .isTrue trivial

/-! ## Honest traffic -/

/-- The stamp of what is sent on a route. -/
def routeStamp (stamp : SessionStamp) (message : RouteTransitionMessage) (route : RouteIndex) :
    SessionStamp :=
  stampAtRouteEpoch stamp (if route = 0 then message.baseRouteEpoch else message.nextRouteEpoch)

/-- What a call of `next_input` holds between two steps: a record with the expected stamp,
which is also the stamp of the session once the authorization was checked. -/
def InputHonest (expected current : SessionStamp) : InputState → Prop
  | .received record => record.stamp = expected
  | .checking record => record.stamp = expected ∧ current = expected
  | _ => True

structure Honest (stamp : SessionStamp) (message : RouteTransitionMessage) (world : TrafficWorld) :
    Prop where
  inputs : ∀ side route, ∀ record ∈ world.inputs side route,
    record.stamp = routeStamp stamp message route
  datagrams : ∀ side route, ∀ bytes ∈ world.datagrams side route,
    HonestDatagram (routeStamp stamp message route) bytes
  receivers : ∀ side route, InputHonest (routeStamp stamp message route)
    ((world.sets side).routes route).currentStamp (world.receivers side route)
  threads : ∀ side thread, ThreadHonest (world.sets side).stamp (world.threads side thread)
  /-- The set is borrowed by the call that waits for its write. -/
  borrowed : ∀ side, (world.underway side).isSome → ∀ thread, world.threads side thread = .idle

section

variable {stamp : SessionStamp} {message : RouteTransitionMessage} {initiator side : Side}
  {world world' : TrafficWorld} {progress : Side → Nat}

theorem next_ne_base (hproposal : Proposal stamp message) :
    message.nextRouteEpoch ≠ message.baseRouteEpoch := by
  have hnext := checkedAdd_eq_some.1 (validate_eq_ok hproposal.valid).2
  intro heq
  rw [heq] at hnext
  exact absurd hnext (by simp)

/-- An endpoint at the first epoch is on its old route. -/
theorem standing_regular {p : Nat} :
    let standing := ((script stamp message initiator side).point p).standing
    standing.epoch = message.baseRouteEpoch ∧ standing.active = 0 ∨
      standing.epoch = message.nextRouteEpoch := by
  unfold script
  split_ifs
  · match p with
    | 0 | 1 | 2 | 3 | 4 => exact .inl ⟨rfl, rfl⟩
    | 5 | 6 | _ + 7 => exact .inr rfl
  · match p with
    | 0 | 1 | 2 | 3 => exact .inl ⟨rfl, rfl⟩
    | 4 | 5 | _ + 6 => exact .inr rfl

/-- An endpoint that is not ahead has the stamp of its route. -/
theorem Joined.currentStamp_active (hproposal : Proposal stamp message)
    (h : Joined stamp message initiator world progress)
    (hahead : ¬world.Ahead stamp.routeEpoch side) :
    ((world.sets side).routes (world.sets side).active).currentStamp =
      routeStamp stamp message (world.sets side).active := by
  have hstands := (h.isAt side).stands
  rw [(hstands.routes _).currentStamp]
  unfold routeStamp
  rcases standing_regular with ⟨hep, hact⟩ | hep
  · rw [hep, hstands.active, hact]
    rfl
  rw [hep, if_neg]
  intro hact
  refine hahead ⟨hact, ?_⟩
  rw [(hstands.routes 0).routeEpoch, hep, ← hproposal.base]
  exact next_ne_base hproposal

variable {route : RouteIndex} {sess : ProductSession}
  (hchecking : ∀ route, (world.receivers side route).isChecking = false)
  (hrecv : ((world.sets side).routes route).Received sess) {set : ProductRouteSet}
  {standing : Standing}

/-- Only the active route is authorized. -/
theorem Stands.active_of_authorized (h : Stands stamp message set standing)
    (hauthd : (set.routes route).routeAuthorized = true) : route = set.active := by
  rw [(h.routes route).routeAuthorized, decide_eq_true_eq] at hauthd
  rw [hauthd, h.active]

/-! ## Steps of the exchange -/

/-- What a step of the set of a side leaves alone.  The calls of `receive_media_frame` on that
set have ended. -/
structure Borrows (side : Side) (world world' : TrafficWorld) : Prop where
  inputs : world'.inputs = world.inputs
  datagrams : world'.datagrams = world.datagrams
  receivers : world'.receivers = world.receivers
  idle : ∀ thread, world'.threads side thread = .idle
  sets : ∀ other, other ≠ side → world'.sets other = world.sets other
  threads : ∀ other, other ≠ side → world'.threads other = world.threads other
  underway : ∀ other, other ≠ side → world'.underway other = world.underway other

theorem borrows_perform {call : SetCall} {rest : List SetCall} :
    (world.perform side call rest).2 = world ∨
      Borrows side world (world.perform side call rest).2 := by
  unfold perform
  dsimp only
  split_ifs
  · exact .inl rfl
  all_goals
    refine .inr ⟨rfl, rfl, rfl, fun thread => ?_, fun other hne => ?_, fun other hne => ?_,
      fun other hne => ?_⟩
    · show update world.threads side (fun _ => ReceiveState.idle) side thread = .idle
      rw [update_self]
    all_goals first | exact update_of_ne hne .. | rfl

theorem borrows_transition :
    (world.step (.transition side)).2 = world ∨
      Borrows side world (world.step (.transition side)).2 := by
  unfold step
  dsimp only
  split
  · exact borrows_perform
  · exact .inl rfl

theorem Honest.borrows_written (h : Honest stamp message world) :
    (world.step (.written side)).2 = world ∨ Borrows side world (world.step (.written side)).2 := by
  unfold step
  dsimp only
  split
  · exact .inl rfl
  next operation hunder =>
  refine .inr ⟨rfl, rfl, rfl, ?_, fun other hne => ?_, fun other hne => rfl, fun other hne => ?_⟩
  · exact h.borrowed side (by rw [hunder]; rfl)
  all_goals exact update_of_ne hne ..

variable {expected : SessionStamp}

theorem InputHonest.of_not_checking {current current' : SessionStamp} {state : InputState}
    (h : InputHonest expected current state) (hstate : state.isChecking = false) :
    InputHonest expected current' state := by
  cases state with
  | idle | reading => trivial
  | received record => exact h
  | checking record => cases hstate

include hchecking in
/-- A step of a set keeps the traffic honest, when no call of `next_input` on it is about to
compare a stamp. -/
theorem Honest.borrows (h : Honest stamp message world) (hbor : Borrows side world world') :
    Honest stamp message world' where
  inputs := by
    rw [hbor.inputs]
    exact h.inputs
  datagrams := by
    rw [hbor.datagrams]
    exact h.datagrams
  receivers other route := by
    rw [hbor.receivers]
    by_cases hoth : other = side
    · subst hoth
      exact (h.receivers other route).of_not_checking (hchecking route)
    · rw [hbor.sets other hoth]
      exact h.receivers other route
  threads other thread := by
    by_cases hoth : other = side
    · subst hoth
      rw [hbor.idle]
      trivial
    · rw [hbor.sets other hoth, hbor.threads other hoth]
      exact h.threads other thread
  borrowed other hunder thread := by
    by_cases hoth : other = side
    · subst hoth
      exact hbor.idle thread
    rw [hbor.threads other hoth]
    rw [hbor.underway other hoth] at hunder
    exact h.borrowed other hunder thread

include hchecking in
theorem Honest.exchange (h : Honest stamp message world)
    (hstep : world' = world ∨ Borrows side world world') :
    Honest stamp message world' := by
  rcases hstep with rfl | hbor
  · exact h
  · exact h.borrows hchecking hbor

/-! ## Steps on a session -/

theorem Stands.received (h : Stands stamp message set standing)
    (hrecv : (set.routes route).Received sess) :
    Stands stamp message
      (set.setRoute route { set.routes route with toProductSession := sess }) standing := by
  refine { h with routes := fun other => ?_, wire := ?_ }
  · by_cases hoth : other = route
    · subst hoth
      rw [routes_setRoute_self]
      have hrt := h.routes other
      exact
        { hrt with
          currentStamp := hrecv.currentStamp.trans hrt.currentStamp
          routeEpoch := hrecv.routeEpoch.trans hrt.routeEpoch
          routeAuthorized := hrecv.routeAuthorized.trans hrt.routeAuthorized
          isOpen := hrecv.connectionClosed.trans hrt.isOpen
          settled := hrecv.sound.settled
          config := hrecv.sound.config
          room := by rw [hrecv.reassemblyConfig]; exact hrt.room }
    · rw [routes_setRoute_of_ne hoth]
      exact h.routes other
  · refine (field_setRoute (·.routeTransition) ?_ 0).trans h.wire
    rfl

/-- The endpoints are joined as long as their sets, programs and control lanes are the same. -/
theorem Joined.congr (h : Joined stamp message initiator world progress)
    (hroutes : world'.toRouteWorld = world.toRouteWorld)
    (hprograms : world'.programs = world.programs)
    (hunder : world'.underway = world.underway) :
    Joined stamp message initiator world' progress := by
  refine ⟨fun side => ⟨?_, ?_, ?_⟩, ?_, h.read_le⟩
  · rw [hprograms]
    exact (h.isAt side).program
  · rw [hroutes]
    exact (h.isAt side).stands
  · rw [hunder]
    exact (h.isAt side).writes
  · rw [hroutes]
    exact h.lanes

include hrecv in
theorem Joined.setSession (h : Joined stamp message initiator world progress) :
    Joined stamp message initiator (world.setSession side route sess) progress := by
  have hstands := (forall_update_iff world.sets fun other set => Stands stamp message set
    ((script stamp message initiator other).point (progress other)).standing).2
      ⟨(h.isAt side).stands.received hrecv, fun other _ => (h.isAt other).stands⟩
  exact ⟨fun other => ⟨(h.isAt other).program, hstands other, (h.isAt other).writes⟩, h.lanes,
    h.read_le⟩

include hrecv in
/-- The stamps of all sessions stay. -/
theorem currentStamp_setSession (other : Side) (idx : RouteIndex) :
    (((world.setSession side route sess).sets other).routes idx).currentStamp =
      ((world.sets other).routes idx).currentStamp :=
  (forall_update_iff world.sets fun other set =>
      (set.routes idx).currentStamp = ((world.sets other).routes idx).currentStamp).2
    ⟨field_setRoute (·.currentStamp) hrecv.currentStamp idx, fun _ _ => rfl⟩
    other

theorem active_setSession (other : Side) :
    ((world.setSession side route sess).sets other).active = (world.sets other).active :=
  (forall_update_iff world.sets (a := side) fun other set =>
    set.active = (world.sets other).active).2 ⟨by rfl, fun _ _ => rfl⟩ other

/-- What holds of every entry of a table holds after one entry was replaced by another one of
which it holds. -/
theorem forall_update₂ {α β γ : Type} [DecidableEq α] [DecidableEq β] {table : α → β → γ}
    {P : α → β → γ → Prop} {a : α} {b : β} {entry : γ} (h : ∀ a b, P a b (table a b))
    (hent : P a b entry) (a' : α) :
    ∀ b', P a' b' (update table a (update (table a) b entry) a' b') := by
  refine (forall_update_iff table fun a row => ∀ b, P a b (row b)).2 ⟨?_, fun a _ => h a⟩ a'
  exact (forall_update_iff (table a) (P a)).2 ⟨hent, fun b _ => h a b⟩

include hrecv in
/-- A session that has received something honest. -/
theorem Honest.setSession (h : Honest stamp message world) :
    Honest stamp message (world.setSession side route sess) := by
  refine { h with receivers := fun other idx => ?_, threads := fun other thread => ?_ }
  · rw [currentStamp_setSession hrecv]
    exact h.receivers other idx
  · unfold ProductRouteSet.stamp
    rw [active_setSession, currentStamp_setSession hrecv]
    exact h.threads other thread

variable {thread : Nat} {state : ReceiveState}

/-- A call of `receive_media_frame` goes on, while the set is not borrowed. -/
theorem Honest.setThread (h : Honest stamp message world)
    (hstate : ThreadHonest (world.sets side).stamp state)
    (hidle : (world.underway side).isSome → state = .idle) :
    Honest stamp message (world.setThread side thread state) :=
  { h with
    threads := forall_update₂ h.threads hstate
    borrowed := fun other hunder idx =>
      forall_update₂ (P := fun other _ (state : ReceiveState) => (world.underway other).isSome →
        state = .idle) (fun other idx hsome => h.borrowed other hsome idx) hidle other idx
        hunder }

/-! ## Every step -/

theorem sendInput_stamp {payload : List UInt8} {record : InputRecord}
    (h : sess.sendInput payload = .ok record) : record.stamp = sess.currentStamp := by
  unfold ProductSession.sendInput at h
  split_ifs at h
  split at h
  · cases h
  next henc =>
  cases h
  unfold InputRecord.encode at henc
  split_ifs at henc
  split at henc
  · cases henc
  · cases henc
    rfl

/-- What is no error of a call is no violation. -/
theorem violation_media {event : ReceiveEvent} (h : event.Harmless) :
    (TrafficEvent.media side event).violation = none := by
  cases event with
  | failed thread e => exact h.elim
  | _ => rfl

/-- Nothing has gone wrong. -/
structure Fine (stamp : SessionStamp) (message : RouteTransitionMessage) (initiator : Side)
    (world : TrafficWorld) : Prop where
  joined : ∃ progress, Joined stamp message initiator world progress
  honest : Honest stamp message world

variable (hproposal : Proposal stamp message) (h : Fine stamp message initiator world)
  (hahead : ¬world.Ahead stamp.routeEpoch side)

include hproposal h hahead in
theorem Fine.sendInput (payload : List UInt8) :
    (world.step (.sendInput side payload)).1.violation = none ∧
      Fine stamp message initiator (world.step (.sendInput side payload)).2 := by
  obtain ⟨progress, hjoin⟩ := h.joined
  unfold step
  dsimp only
  split_ifs
  · exact ⟨rfl, h⟩
  split
  · exact ⟨rfl, h⟩
  next record hrec =>
  have hstp : record.stamp = routeStamp stamp message (world.sets side).active := by
    rw [← hjoin.currentStamp_active hproposal hahead]
    exact sendInput_stamp hrec
  refine ⟨rfl, ⟨progress, hjoin.congr rfl rfl rfl⟩, { h.honest with inputs := ?_ }⟩
  refine forall_update₂ (P := fun _ route (records : List InputRecord) => ∀ record ∈ records,
    record.stamp = routeStamp stamp message route) h.honest.inputs fun sent hsent => ?_
  rcases mem_append.1 hsent with hold | hnew
  · exact h.honest.inputs side _ sent hold
  · rw [mem_singleton.1 hnew]
    exact hstp

include hproposal h hahead in
theorem Fine.sendMedia {media : MediaFrame} (hparity : media.spec.flags &&& MediaFlags.parity = 0) :
    (world.step (.sendMedia side media)).1.violation = none ∧
      Fine stamp message initiator (world.step (.sendMedia side media)).2 := by
  obtain ⟨progress, hjoin⟩ := h.joined
  unfold step
  dsimp only
  split_ifs
  · exact ⟨rfl, h⟩
  refine ⟨rfl, ⟨progress, hjoin.congr rfl rfl rfl⟩, { h.honest with datagrams := ?_ }⟩
  refine forall_update₂ (P := fun _ route datagrams => ∀ bytes ∈ datagrams,
    HonestDatagram (routeStamp stamp message route) bytes) h.honest.datagrams
    fun bytes hbytes => ?_
  rcases mem_append.1 hbytes with hold | hnew
  · exact h.honest.datagrams side _ bytes hold
  · rw [← hjoin.currentStamp_active hproposal hahead]
    exact sendMediaFrame_honest hparity hnew

section

include h

/-- A call of `receive_media_frame` that begins or ends. -/
theorem Fine.setThread (hstate : ThreadHonest (world.sets side).stamp state)
    (hidle : (world.underway side).isSome → state = .idle) :
    Fine stamp message initiator (world.setThread side thread state) := by
  obtain ⟨progress, hjoin⟩ := h.joined
  exact ⟨⟨progress, hjoin.congr rfl rfl rfl⟩, h.honest.setThread hstate hidle⟩

theorem Fine.callMedia (thread : Nat) :
    (world.step (.callMedia side thread)).1.violation = none ∧
      Fine stamp message initiator (world.step (.callMedia side thread)).2 := by
  unfold step
  dsimp only
  split
  · next hunder _ =>
    refine ⟨rfl, h.setThread trivial fun hsome => ?_⟩
    rw [hunder] at hsome
    cases hsome
  · exact ⟨rfl, h⟩

include hrecv in
theorem Fine.setSession :
    Fine stamp message initiator (world.setSession side route sess) := by
  obtain ⟨progress, hjoin⟩ := h.joined
  exact ⟨⟨progress, hjoin.setSession hrecv⟩, h.honest.setSession hrecv⟩

end

/-- The session of a route, for the receiving side. -/
theorem Joined.mediaSound (h : Joined stamp message initiator world progress) :
    ((world.sets side).routes route).MediaSound :=
  ⟨((h.isAt side).stands.routes route).settled, ((h.isAt side).stands.routes route).config⟩

include hproposal h hahead in
/-- A call of `receive_media_frame` takes its next step. -/
theorem Fine.receiveMedia (thread dgram : Nat) (nowNs : UInt64) :
    (world.step (.receiveMedia side thread dgram nowNs)).1.violation = none ∧
      Fine stamp message initiator (world.step (.receiveMedia side thread dgram nowNs)).2 := by
  obtain ⟨_, hjoin⟩ := h.joined
  have hrt := (hjoin.isAt side).stands.routes (world.sets side).active
  have hstp := hjoin.currentStamp_active hproposal hahead
  unfold step
  dsimp only
  split_ifs with hwait
  · exact ⟨rfl, h⟩
  rw [not_or, not_and] at hwait
  obtain ⟨hfree, hreads⟩ := hwait
  have hauthd := hrt.routeAuthorized.trans (decide_eq_true (hjoin.isAt side).stands.active)
  have hbytes : ∀ bytes ∈ (world.datagrams side.peer (world.sets side).active)[dgram]?,
      HonestDatagram ((world.sets side).routes (world.sets side).active).currentStamp bytes := by
    intro bytes hbytes
    rw [hstp]
    exact h.honest.datagrams _ _ bytes (mem_of_getElem? hbytes)
  have hinbound : world.threads side thread = .receiving →
      (world.datagrams side.peer (world.sets side).active)[dgram]?.isSome := by
    intro hreceiving
    have hsome := hreads (by rw [hreceiving]; rfl)
    rwa [Bool.not_eq_true, isNone_eq_false_iff] at hsome
  obtain ⟨hharmless, hrecv, hthread⟩ := receiveMediaFrame_honest
    hjoin.mediaSound hauthd hrt.room
    (h.honest.threads side thread) hinbound hbytes thread nowNs
  refine ⟨violation_media hharmless, (h.setSession hrecv).setThread ?_ ?_⟩
  · unfold ProductRouteSet.stamp
    rw [active_setSession, currentStamp_setSession hrecv]
    exact hthread
  · intro hsome
    exact absurd hsome hfree

/-- A step of `next_input` on honest records.  The session stays as it is, and what is left
of the lane is honest. -/
theorem nextInput_honest {state : InputState} {lane : List InputRecord}
    (hstate : InputHonest expected sess.currentStamp state)
    (hstp : sess.routeAuthorized = true → sess.currentStamp = expected)
    (hlane : ∀ record ∈ lane, record.stamp = expected) :
    let next := nextInput sess state lane
    (∀ e, next.1 = .failed e → e = .inactiveRoute) ∧ next.2.1 = sess ∧
      InputHonest expected sess.currentStamp next.2.2.1 ∧
      ∀ record ∈ next.2.2.2, record.stamp = expected := by
  cases state with
  | idle =>
    simp only [nextInput]
    split_ifs
    · exact ⟨nofun, rfl, trivial, hlane⟩
    refine ⟨fun e herror => ?_, rfl, trivial, hlane⟩
    cases herror
    rfl
  | reading =>
    cases lane with
    | nil => exact ⟨nofun, rfl, trivial, nofun⟩
    | cons record rest =>
      exact ⟨nofun, rfl, hlane record (.head _), fun other hoth => hlane other (.tail _ hoth)⟩
  | received record =>
    simp only [nextInput]
    split_ifs with hauthd
    · exact ⟨nofun, rfl, ⟨hstate, hstp hauthd⟩, hlane⟩
    refine ⟨fun e herror => ?_, rfl, trivial, hlane⟩
    cases herror
    rfl
  | checking record =>
    obtain ⟨hrec, hcurr⟩ := hstate
    simp only [nextInput]
    rw [if_neg (by rw [hrec, hcurr]; exact not_not_intro rfl)]
    exact ⟨nofun, rfl, trivial, hlane⟩

theorem violation_input {res : InputResult}
    (h : ∀ e, res = .failed e → e = .inactiveRoute) :
    (TrafficEvent.input side res).violation = none := by
  cases res with
  | failed e => exact if_pos (h e rfl)
  | _ => rfl

include hproposal h in
/-- A call of `next_input` takes its next step. -/
theorem Fine.nextInput (hahead : ¬(world.Ahead stamp.routeEpoch side ∧ route = 0)) :
    (world.step (.nextInput side route)).1.violation = none ∧
      Fine stamp message initiator (world.step (.nextInput side route)).2 := by
  obtain ⟨progress, hjoin⟩ := h.joined
  have hstp : ((world.sets side).routes route).routeAuthorized = true →
      ((world.sets side).routes route).currentStamp = routeStamp stamp message route := by
    intro hauthd
    have hact := (hjoin.isAt side).stands.active_of_authorized hauthd
    rw [hact]
    refine hjoin.currentStamp_active hproposal fun hworld => hahead ⟨hworld, ?_⟩
    rw [hact, hworld.1]
  obtain ⟨herror, hsess, hstate, hlane⟩ := nextInput_honest (h.honest.receivers side route) hstp
    (h.honest.inputs side.peer route)
  have hsame : (world.setSession side route (SocketTransport.nextInput
      ((world.sets side).routes route).toProductSession (world.receivers side route)
      (world.inputs side.peer route)).2.1) = world := by
    rw [hsess]
    unfold TrafficWorld.setSession TrafficWorld.setOf
    rw [setRoute_same, update_eq_self]
  refine ⟨violation_input herror, ?_⟩
  unfold step
  dsimp only
  rw [hsame]
  have hinputs := forall_update₂ (a := side.peer) (P := fun _ route (records : List InputRecord) =>
    ∀ record ∈ records, record.stamp = routeStamp stamp message route) h.honest.inputs hlane
  exact ⟨⟨progress, hjoin.congr rfl rfl rfl⟩, { h.honest with
    inputs := hinputs, receivers := forall_update₂ h.honest.receivers hstate }⟩

include h in
theorem Fine.dropInput (route : RouteIndex) :
    (world.step (.dropInput side route)).1.violation = none ∧
      Fine stamp message initiator (world.step (.dropInput side route)).2 := by
  obtain ⟨progress, hjoin⟩ := h.joined
  unfold step
  dsimp only
  split
  · exact ⟨rfl, ⟨progress, hjoin.congr rfl rfl rfl⟩, { h.honest with
      receivers := forall_update₂ h.honest.receivers trivial }⟩
  · exact ⟨rfl, h⟩

include hproposal h hchecking in
theorem Fine.transition :
    (world.step (.transition side)).1.violation = none ∧
      Fine stamp message initiator (world.step (.transition side)).2 := by
  obtain ⟨_, hjoin⟩ := h.joined
  obtain ⟨hviolation, hjoin'⟩ := hjoin.transition hproposal side
  exact ⟨hviolation, hjoin', h.honest.exchange hchecking borrows_transition⟩

include h hchecking in
theorem Fine.written :
    (world.step (.written side)).1.violation = none ∧
      Fine stamp message initiator (world.step (.written side)).2 := by
  obtain ⟨_, hjoin⟩ := h.joined
  obtain ⟨hviolation, hjoin'⟩ := hjoin.written side
  exact ⟨hviolation, hjoin', h.honest.exchange hchecking h.honest.borrows_written⟩

include hproposal h in
/-- Every call that does not disturb the exchange keeps everything fine. -/
theorem Fine.step {call : TrafficCall} (hcall : Undisturbing stamp.routeEpoch world call) :
    (world.step call).1.violation = none ∧ Fine stamp message initiator (world.step call).2 := by
  cases call with
  | transition side => exact h.transition hcall hproposal
  | written side => exact h.written hcall
  | sendInput side payload => exact h.sendInput hproposal hcall payload
  | sendMedia side media => exact h.sendMedia hproposal hcall.1 hcall.2
  | callMedia side thread => exact h.callMedia thread
  | receiveMedia side thread dgram nowNs => exact h.receiveMedia hproposal hcall thread dgram nowNs
  | dropMedia side thread => exact ⟨rfl, h.setThread trivial fun _ => rfl⟩
  | nextInput side route => exact h.nextInput hproposal hcall
  | dropInput side route => exact h.dropInput route

/-! ## Every run -/

/-- A new set that can take part in the exchange: its other route is the one that the message
names, its sessions are open, and they take every datagram of a peer. -/
structure ProductRouteSet.Ready (stamp : SessionStamp) (message : RouteTransitionMessage)
    (set : ProductRouteSet) : Prop where
  fresh : set.Fresh
  stamp : set.stamp = stamp
  target : (message.routeDigest, message.transcriptDigest) =
    ((set.bindings 1).routeDigest, (set.bindings 1).transcriptDigest)
  isOpen : ∀ route, (set.routes route).connectionClosed = false
  sound : ∀ route, (set.routes route).MediaSound
  room : ∀ route, maxDatagramMtu ≤ (set.routes route).reassemblyConfig.maxDatagramBytes.toNat

include hproposal in
theorem ProductRouteSet.Ready.stands (h : set.Ready stamp message) :
    Stands stamp message set (.ready message) := by
  obtain ⟨active, _, _, _, hnew, hseq, hwire, hseq', _⟩ := h.fresh
  obtain ⟨-, -, -, hsame, hrt, hrt', hact, hactv, hline⟩ :=
    new_eq_ok hnew
  have hcurr : active.currentStamp = stamp := by
    have hstp := h.stamp
    unfold ProductRouteSet.stamp at hstp
    rw [hact, hrt] at hstp
    exact hstp
  have hbase : stampAtRouteEpoch stamp message.baseRouteEpoch = stamp := by
    rw [hproposal.base]
    rfl
  have hep : active.routeEpoch = message.baseRouteEpoch := by
    rw [hproposal.base, ← hcurr]
    rfl
  refine ⟨fun route => ?_, ?_, h.target, hact, hactv, hline⟩
  · have hopen := h.isOpen route
    have hsnd := h.sound route
    have hroom := h.room route
    match route with
    | 0 =>
      rw [hrt] at hopen hsnd hroom ⊢
      exact ⟨hcurr.trans hbase.symm, hep, hseq, rfl, hopen, hsnd.settled, hsnd.config, hroom⟩
    | 1 =>
      rw [hrt'] at hopen hsnd hroom ⊢
      refine ⟨(hsame.symm.trans hcurr).trans hbase.symm, ?_, hseq', rfl, hopen,
        hsnd.settled, hsnd.config, hroom⟩
      exact (congrArg SessionStamp.routeEpoch hsame).symm.trans hep
  · rw [hrt]
    exact hwire

/-- An endpoint begins with nothing sent and nothing read. -/
theorem script_zero :
    (script stamp message initiator side).sent 0 route = [] ∧
      (script stamp message initiator side).read 0 route = 0 := by
  unfold script initiatorScript responderScript
  split_ifs <;> simp

include hproposal in
/-- Nothing has gone wrong before the exchange. -/
theorem fine_start {sets : Side → ProductRouteSet}
    (h : ∀ side, (sets side).Ready stamp message) (initiator : Side) :
    Fine stamp message initiator
      (.start sets initiator (initiatorProgram message) (responderProgram message)) := by
  refine ⟨⟨fun _ => 0, fun side => ?_, fun side route => ?_, fun side route => ?_⟩, ?_⟩
  · unfold script
    split_ifs with hside
    · exact ⟨if_pos hside, (h side).stands hproposal, rfl⟩
    · exact ⟨if_neg hside, (h side).stands hproposal, rfl⟩
  · rw [script_zero.1]
    exact drop_nil.symm
  · rw [script_zero.2]
    exact Nat.zero_le _
  · exact ⟨fun _ _ => nofun, fun _ _ => nofun, fun _ _ => trivial, fun _ _ => trivial,
      fun _ hsome => absurd hsome Bool.false_ne_true⟩

end

/-- In every interleaving of a complete exchange, begun by either side, with media and input
that does not disturb it, no call reports a violation and every connection stays open. -/
theorem promotion_is_undisturbed (stamp : SessionStamp) (message : RouteTransitionMessage)
    (hproposal : Proposal stamp message) (sets : Side → ProductRouteSet)
    (hready : ∀ side, (sets side).Ready stamp message) (initiator : Side)
    (calls : List TrafficCall)
    (hcalls : trafficMachine.Along (Undisturbing stamp.routeEpoch)
      (.start sets initiator (initiatorProgram message) (responderProgram message)) calls) :
    let start := start sets initiator (initiatorProgram message)
      (responderProgram message)
    (∀ step ∈ trafficMachine.trace start calls, step.event.violation = none) ∧
      ∀ side route, (((trafficMachine.run start calls).sets side).routes route).connectionClosed =
        false := by
  obtain ⟨hfine, hevents⟩ := trafficMachine.along_induction
    (Q := fun event => event.violation = none)
    (fun world call hcall h => (h.step hproposal hcall).symm)
    (fine_start hproposal hready initiator) hcalls
  refine ⟨hevents, fun side route => ?_⟩
  obtain ⟨_, hjoin⟩ := hfine.joined
  exact ((hjoin.isAt side).stands.routes route).isOpen

/-! ## Runs -/

theorem sampleSet_ready : sampleSet.Ready sampleStamp (sampleMessage .prepare) where
  fresh := sampleSet_fresh
  stamp := rfl
  target := rfl
  isOpen := by decide +kernel
  sound route := by
    match route with
    | 0 | 1 => exact ⟨Reassembler.settled_ofValid _, rfl⟩
  room route := by
    match route with
    | 0 | 1 => decide +kernel

theorem sampleProposal : Proposal sampleStamp (sampleMessage .prepare) :=
  ⟨by decide, rfl, rfl⟩

def sampleStart (initiator : Side) : TrafficWorld :=
  .start (fun _ => sampleSet) initiator (initiatorProgram (sampleMessage .prepare))
    (responderProgram (sampleMessage .prepare))

/-- The client sends an input on the route of both endpoints.  The host commits the move, the
client follows, and only then the host reads the input. -/
def staleInputRun : List TrafficCall :=
  [.transition .host, .written .host, .transition .client, .transition .client, .written .client,
    .transition .host, .sendInput .client [7], .nextInput .host 0,
    .transition .host, .written .host, .transition .client, .written .client,
    .nextInput .host 0, .nextInput .host 0, .nextInput .host 0,
    .transition .host, .written .host, .transition .client]

/-- The host takes the input for a violation of the protocol and closes the connection, though
the exchange comes to its end on both sides. -/
theorem stale_input_closes_the_session :
    let world := trafficMachine.run (sampleStart .host) staleInputRun
    (trafficMachine.trace (sampleStart .host) staleInputRun).filterMap (·.event.violation) =
        [.stampMismatch (stampAtRouteEpoch sampleStamp 2) sampleStamp] ∧
      ((world.sets .host).routes 0).connectionClosed = true ∧
      ∀ side, world.programs side = [] ∧ world.underway side = none ∧
        (world.sets side).active = 1 ∧ (world.sets side).activation = .idle := by
  refine ⟨by decide +kernel, by decide +kernel, fun side => ?_⟩
  cases side
  all_goals
    exact ⟨by decide +kernel, isNone_iff_eq_none.1 (by decide +kernel),
      by decide +kernel, by decide +kernel⟩

/-- A frame of three bytes that goes as one datagram. -/
def sampleMedia : MediaFrame :=
  { spec :=
      { kind := .video
        flags := MediaFlags.keyframe
        streamId := 1
        codecEpoch := 1
        frameId := 1
        dependencyFrameId := none }
    frame := [1, 2, 3]
    maxAge := 1000
    pathMaxDatagramBytes := some 1200
    nowNs := 0
    answer := fun _ => .ok .sent }

/-- A complete exchange begun by the client, with a frame and an input before it and an input
after it.  The frame and the inputs arrive. -/
def undisturbedRun : List TrafficCall :=
  [.sendMedia .host sampleMedia, .sendInput .client [7]] ++ replicate 4 (.nextInput .host 0) ++
    .callMedia .client 0 :: replicate 9 (.receiveMedia .client 0 0 1) ++
    [.transition .client, .written .client, .transition .host, .transition .host, .written .host,
      .transition .client, .transition .client, .written .client, .transition .host, .written .host,
      .transition .client, .written .client, .transition .host, .sendInput .client [8]] ++
    replicate 4 (.nextInput .host 1)

/-- The frames and the inputs that a call has returned. -/
def TrafficEvent.arrived : TrafficEvent → Option (List UInt8)
  | .media _ (.delivered _ frame) => some frame.bytes
  | .input _ (.payload payload) => some payload
  | _ => none

theorem sample_promotion_is_undisturbed :
    (trafficMachine.trace (sampleStart .client) undisturbedRun).filterMap (·.event.arrived) =
        [[7], [1, 2, 3], [8]] ∧
      (∀ step ∈ trafficMachine.trace (sampleStart .client) undisturbedRun,
        step.event.violation = none) ∧
      (∀ side route, (((trafficMachine.run (sampleStart .client) undisturbedRun).sets side).routes
        route).connectionClosed = false) ∧
      ∀ side, ((trafficMachine.run (sampleStart .client) undisturbedRun).sets side).active = 1 := by
  obtain ⟨hevents, hopen⟩ := promotion_is_undisturbed sampleStamp (sampleMessage .prepare)
    sampleProposal (fun _ => sampleSet) (fun _ => sampleSet_ready) .client undisturbedRun
    (by decide +kernel)
  unfold sampleStart
  refine ⟨by decide +kernel, hevents, hopen, fun side => ?_⟩
  cases side
  · decide +kernel
  · decide +kernel

end LatencyDesk.SocketTransport
