import LatencyDesk.SocketTransport.Exchange

/-!
# How far the two endpoints have come

A program of four calls is seven points for the initiator and six for the
responder, since a call that writes has a point of its own while it waits for the
write.  `IsAt` says what holds of an endpoint at a point.

`Joined` adds the control lanes.  A record is in its lane when its sender has come
to the point at which it is sent, and its reader has not come to the point at
which it is read.  The two steps of an endpoint take it to the next point or
leave the world as it is (`Joined.transition`, `Joined.written`), and no call of
a set returns an error.
-/

namespace LatencyDesk.SocketTransport

open Lib Protocol List Function TrafficWorld Side

/-! ## Programs and points -/

def initiatorProgram (message : RouteTransitionMessage) : List SetCall :=
  [.sendRouteTransition (atStage message .prepare), .nextRouteTransition 0,
    .sendRouteTransition (atStage message .commit), .nextRouteActivation 1]

def responderProgram (message : RouteTransitionMessage) : List SetCall :=
  [.nextRouteTransition 0, .sendRouteTransition (atStage message .prepared),
    .nextRouteTransition 0, .nextRouteConfirmation 1]

structure Point where
  program : List SetCall
  standing : Standing
  /-- The standing behind the write, while the endpoint waits for one. -/
  writing : Option Standing

def initiatorPoint (message : RouteTransitionMessage) : Nat → Point
  | 0 => ⟨initiatorProgram message, .ready message, none⟩
  | 1 => ⟨(initiatorProgram message).drop 1, .ready message, some (.offered message)⟩
  | 2 => ⟨(initiatorProgram message).drop 1, .offered message, none⟩
  | 3 => ⟨(initiatorProgram message).drop 2, .agreed message, none⟩
  | 4 => ⟨(initiatorProgram message).drop 3, .agreed message, some (.committed message)⟩
  | 5 => ⟨(initiatorProgram message).drop 3, .committed message, none⟩
  | 6 => ⟨[], .committed message, some (.moved message)⟩
  | _ => ⟨[], .moved message, none⟩

def responderPoint (message : RouteTransitionMessage) : Nat → Point
  | 0 => ⟨responderProgram message, .ready message, none⟩
  | 1 => ⟨(responderProgram message).drop 1, .asked message, none⟩
  | 2 => ⟨(responderProgram message).drop 2, .asked message, some (.answered message)⟩
  | 3 => ⟨(responderProgram message).drop 2, .answered message, none⟩
  | 4 => ⟨(responderProgram message).drop 3, .following message, some (.followed message)⟩
  | 5 => ⟨(responderProgram message).drop 3, .followed message, none⟩
  | _ => ⟨[], .moved message, none⟩

/-- The call under way comes to the standing. -/
def Writes (stamp : SessionStamp) (message : RouteTransitionMessage)
    (underway : Option Operation) : Option Standing → Prop
  | none => underway = none
  | some after => ∃ set answer consumed sent,
      underway = some (ProductRouteSet.succeed set answer consumed sent) ∧
        Stands stamp message set after

structure IsAt (stamp : SessionStamp) (message : RouteTransitionMessage) (point : Point)
    (world : TrafficWorld) (side : Side) : Prop where
  program : world.programs side = point.program
  stands : Stands stamp message (world.sets side) point.standing
  writes : Writes stamp message (world.underway side) point.writing

variable (side : Side)

theorem Side.peer_ne : side.peer ≠ side := by
  cases side <;> decide

theorem Side.peer_peer : side.peer.peer = side := by
  cases side <;> rfl

/-! ## One call -/

section

variable {stamp : SessionStamp} {message : RouteTransitionMessage} {world : TrafficWorld}
  {side other : Side} {call : SetCall} {rest : List SetCall} {set : ProductRouteSet}
  {answer : Option RouteTransitionMessage} {consumed : Bool}
  {sent : Option (RouteIndex × ControlRecord)} {point : Point} {standing after : Standing}

/-- What a call finds in the lanes. -/
def TrafficWorld.inbounds (world : TrafficWorld) (side : Side) (receiver : RouteIndex) : Inbound :=
  world.inbound side receiver true

theorem inbounds_def : (fun recvr => world.inbound side recvr true) = world.inbounds side :=
  rfl

theorem perform_wait (hwait : call.perform (world.sets side) (world.inbounds side) = set.wait) :
    world.perform side call rest = (.quiet, world) := by
  exact if_pos (congrArg Operation.outcome hwait)

/-- A call that succeeds: the event is no error, and the lanes are those behind the call. -/
theorem perform_succeed (hcall : call.perform (world.sets side) (world.inbounds side) =
      set.succeed answer consumed sent) (rest : List SetCall) :
    (world.perform side call rest).1.violation = none ∧
      (world.perform side call rest).2.lanes =
        world.lanesAfter side call.receiver (set.succeed answer consumed sent) := by
  unfold perform
  simp only [inbounds_def, hcall]
  cases sent with
  | none | some routed => exact ⟨rfl, rfl⟩

/-- The endpoint behind a call that wrote a record. -/
theorem isAt_perform_write {routed : RouteIndex × ControlRecord}
    (hcall : call.perform (world.sets side) (world.inbounds side) =
      set.succeed answer consumed (some routed))
    (hset : Stands stamp message set after)
    (hwriting : Stands stamp message (call.whileWriting (world.sets side) (world.inbounds side))
      standing) :
    IsAt stamp message ⟨rest, standing, some after⟩ (world.perform side call rest).2 side := by
  unfold perform
  simp only [inbounds_def, hcall]
  refine ⟨update_self .., ?_, set, answer, consumed, some routed, update_self .., hset⟩
  show Stands stamp message (update world.sets side _ side) standing
  rw [update_self]
  exact hwriting

/-- The endpoint behind a call that wrote nothing. -/
theorem isAt_perform_return (hcall : call.perform (world.sets side) (world.inbounds side) =
      set.succeed answer consumed none)
    (hset : Stands stamp message set after) (hidle : world.underway side = none) :
    IsAt stamp message ⟨rest, after, none⟩ (world.perform side call rest).2 side := by
  unfold perform
  simp only [inbounds_def, hcall]
  refine ⟨update_self .., ?_, hidle⟩
  show Stands stamp message (update world.sets side _ side) after
  rw [update_self]
  exact hset

/-- The other endpoint stays where it is. -/
theorem IsAt.perform_other (h : IsAt stamp message point world other) (hne : other ≠ side) :
    IsAt stamp message point (world.perform side call rest).2 other := by
  have hprogram : update world.programs side rest other = point.program := by
    rw [update_of_ne hne, h.program]
  have hstands : ∀ set, Stands stamp message (update world.sets side set other)
      point.standing := fun set => by
    rw [update_of_ne hne]
    exact h.stands
  unfold perform
  dsimp only
  split_ifs
  · exact h
  · refine ⟨hprogram, hstands _, ?_⟩
    show Writes stamp message (update world.underway side _ other) _
    rw [update_of_ne hne]
    exact h.writes
  · exact ⟨hprogram, hstands _, h.writes⟩

/-! ## Both endpoints and their lanes -/

/-- The points of an endpoint, with what it has sent and read on each route when it has come
there. -/
structure Script where
  point : Nat → Point
  sent : Nat → RouteIndex → List ControlRecord
  read : Nat → RouteIndex → Nat

def initiatorScript (stamp : SessionStamp) (message : RouteTransitionMessage) : Script where
  point := initiatorPoint message
  sent p route :=
    if route = 0 then
      if p = 0 then []
      else if p < 4 then [exchangeRecord stamp message .prepare]
      else [exchangeRecord stamp message .prepare, exchangeRecord stamp message .commit]
    else if p < 6 then [] else [exchangeRecord stamp message .confirmed]
  read p route := if route = 0 then if p < 3 then 0 else 1 else if p < 6 then 0 else 1

def responderScript (stamp : SessionStamp) (message : RouteTransitionMessage) : Script where
  point := responderPoint message
  sent p route :=
    if route = 0 then if p < 2 then [] else [exchangeRecord stamp message .prepared]
    else if p < 4 then [] else [exchangeRecord stamp message .activated]
  read p route :=
    if route = 0 then if p = 0 then 0 else if p < 4 then 1 else 2
    else if p < 6 then 0 else 1

def script (stamp : SessionStamp) (message : RouteTransitionMessage) (initiator side : Side) :
    Script :=
  if side = initiator then initiatorScript stamp message else responderScript stamp message

/-- Both endpoints are at a point of their scripts, and a lane holds what its sender has sent
and its reader has not read. -/
structure Joined (stamp : SessionStamp) (message : RouteTransitionMessage) (initiator : Side)
    (world : TrafficWorld) (progress : Side → Nat) : Prop where
  isAt : ∀ side, IsAt stamp message
    ((script stamp message initiator side).point (progress side)) world side
  lanes : ∀ side route, world.lanes side route =
    ((script stamp message initiator side).sent (progress side) route).drop
      ((script stamp message initiator side.peer).read (progress side.peer) route)
  read_le : ∀ side route,
    (script stamp message initiator side.peer).read (progress side.peer) route ≤
      ((script stamp message initiator side).sent (progress side) route).length

/-- A step that returns no error and leaves the endpoints joined. -/
def StaysJoined (stamp : SessionStamp) (message : RouteTransitionMessage) (initiator : Side)
    (answer : TrafficEvent × TrafficWorld) : Prop :=
  answer.1.violation = none ∧ ∃ progress, Joined stamp message initiator answer.2 progress

variable {initiator : Side} {progress : Side → Nat} {route : RouteIndex}

theorem inbounds_eq_pending (h : world.lanes side.peer route = []) :
    world.inbounds side route = .pending := by
  simp [inbounds, RouteWorld.inbound, h]

theorem inbounds_eq_arrived {record : ControlRecord} {records : List ControlRecord}
    (h : world.lanes side.peer route = record :: records) :
    world.inbounds side route = .arrived record := by
  simp [inbounds, RouteWorld.inbound, h]

/-- The step of an endpoint that waits for nothing. -/
theorem step_transition (h : IsAt stamp message point world side) (hidle : point.writing = none)
    (hprogram : point.program = call :: rest) :
    world.step (.transition side) = world.perform side call rest := by
  have hunder : world.underway side = none := by
    have hwrites := h.writes
    rw [hidle] at hwrites
    exact hwrites
  unfold step
  dsimp only
  rw [hunder, h.program, hprogram]

/-- A call that takes its endpoint from the point `p` to the next one. -/
structure Advances (script : Script) (p : Nat) (world : TrafficWorld) (side : Side)
    (call : SetCall) (operation : Operation) : Prop where
  performs : call.perform (world.sets side) (world.inbounds side) = operation
  sends : ∀ route, script.sent (p + 1) route =
    script.sent p route ++ (operation.sent.toList.filter (·.1 = route)).map (·.2)
  reads : ∀ route, script.read (p + 1) route =
    script.read p route + if operation.consumed ∧ call.receiver = some route then 1 else 0
  finds : ∀ route, operation.consumed ∧ call.receiver = some route →
    world.lanes side.peer route ≠ []

variable (h : Joined stamp message initiator world progress)
  (hstep : world.step (.transition side) = world.perform side call rest) {p : Nat}

section

include h

/-- Such a call keeps the endpoints joined. -/
theorem Joined.perform
    (hadv : Advances (script stamp message initiator side) (progress side) world side call
      (set.succeed answer consumed sent))
    (hisAt : IsAt stamp message
      ((script stamp message initiator side).point (progress side + 1))
      (world.perform side call rest).2 side) :
    Joined stamp message initiator (world.perform side call rest).2
      (update progress side (progress side + 1)) := by
  obtain ⟨_, hlanes⟩ := perform_succeed hadv.performs rest
  have hself : update progress side (progress side + 1) side = progress side + 1 :=
    update_self ..
  have hpeer : update progress side (progress side + 1) side.peer = progress side.peer :=
    update_of_ne side.peer_ne ..
  -- Every side is the one that made the call or its peer.
  have hsides : ∀ other, other = side ∨ other = side.peer := by
    intro other
    cases other <;> cases side <;> decide
  refine ⟨fun other => ?_, fun other route => ?_, fun other route => ?_⟩
  · rcases hsides other with rfl | rfl
    · rw [hself]
      exact hisAt
    · rw [hpeer]
      exact (h.isAt _).perform_other side.peer_ne
  · rw [hlanes]
    rcases hsides other with rfl | rfl
    · rw [hself, hpeer, hadv.sends, drop_append_of_le_length (h.read_le _ route), ← h.lanes]
      exact if_pos rfl
    rw [peer_peer, hself, hpeer, hadv.reads, ← drop_drop]
    have hlane := h.lanes side.peer route
    rw [peer_peer] at hlane
    rw [← hlane]
    refine (if_neg side.peer_ne).trans ?_
    split_ifs with hread
    · rw [drop_one]
    · rw [drop_zero]
  · rcases hsides other with rfl | rfl
    · rw [hself, hpeer, hadv.sends, length_append]
      exact (h.read_le _ route).trans (Nat.le_add_right ..)
    have hle := h.read_le side.peer route
    have hlane := h.lanes side.peer route
    rw [peer_peer] at hle hlane
    rw [peer_peer, hself, hpeer, hadv.reads]
    split_ifs with hread
    · have hfinds := hadv.finds route hread
      rw [hlane, Ne, drop_eq_nil_iff, not_le] at hfinds
      exact hfinds
    · exact hle

variable {script' : Script} (hscript : script stamp message initiator side = script')
  (hp : progress side = p)

include hp hscript hstep in
/-- The step of an endpoint whose call succeeds. -/
theorem Joined.step_perform
    (hadv : Advances script' p world side call (set.succeed answer consumed sent))
    (hisAt : IsAt stamp message (script'.point (p + 1)) (world.perform side call rest).2 side) :
    StaysJoined stamp message initiator (world.step (.transition side)) := by
  subst hscript hp
  rw [hstep]
  exact ⟨(perform_succeed hadv.performs rest).1, _, h.perform hadv hisAt⟩

include hstep in
/-- The step of an endpoint whose call waits. -/
theorem Joined.step_wait (hwait : call.perform (world.sets side) (world.inbounds side) = set.wait) :
    StaysJoined stamp message initiator (world.step (.transition side)) := by
  rw [hstep, perform_wait hwait]
  exact ⟨rfl, progress, h⟩

/-- While an endpoint waits for a write, and when its program is done, nothing happens. -/
theorem Joined.step_rest (hisAt : IsAt stamp message point world side)
    (hrest : point.writing.isSome ∨ point.program = []) :
    StaysJoined stamp message initiator (world.step (.transition side)) := by
  have hquiet : world.step (.transition side) = (.quiet, world) := by
    unfold step
    dsimp only
    rcases hrest with hwriting | hdone
    · obtain ⟨_, hafter⟩ := Option.isSome_iff_exists.1 hwriting
      have hwrites := hisAt.writes
      rw [hafter] at hwrites
      obtain ⟨_, _, _, _, hunder, _⟩ := hwrites
      rw [hunder]
    · rw [hisAt.program, hdone]
      split
      · next hcall => cases hcall
      · rfl
  rw [hquiet]
  exact ⟨rfl, progress, h⟩

include hp hscript hstep in
/-- An endpoint reads the lane of a route: it waits, or it finds the record and comes to its next
point. -/
theorem Joined.step_hear (record : ControlRecord) (hrcvr : call.receiver = some route)
    (hfnd : world.lanes side.peer route = [] ∨
      ∃ later, world.lanes side.peer route = record :: later)
    (hwait : world.inbounds side route = .pending →
      call.perform (world.sets side) (world.inbounds side) = (world.sets side).wait)
    (hread : world.inbounds side route = .arrived record →
      ∃ (set : ProductRouteSet) (answer : Option RouteTransitionMessage)
        (sent : Option (RouteIndex × ControlRecord)),
      call.perform (world.sets side) (world.inbounds side) = set.succeed answer true sent ∧
        (∀ route, script'.sent (p + 1) route =
          script'.sent p route ++ (sent.toList.filter (·.1 = route)).map (·.2)) ∧
        IsAt stamp message (script'.point (p + 1)) (world.perform side call rest).2 side)
    (hreads : ∀ route, script'.read (p + 1) route =
      script'.read p route + if true ∧ call.receiver = some route then 1 else 0) :
    StaysJoined stamp message initiator (world.step (.transition side)) := by
  rcases hfnd with hnone | ⟨_, hsome⟩
  · exact h.step_wait hstep (hwait (inbounds_eq_pending hnone))
  obtain ⟨_, _, _, hperf, hsends, hisAt⟩ := hread (inbounds_eq_arrived hsome)
  refine h.step_perform hstep hscript hp ⟨hperf, hsends, hreads, ?_⟩ hisAt
  rintro other ⟨-, hoth⟩
  obtain rfl : route = other := Option.some.inj (hrcvr.symm.trans hoth)
  rw [hsome]
  exact cons_ne_nil _ _

end

variable (hprop : Proposal stamp message)

include hprop h in
theorem Joined.initiator_transition :
    StaysJoined stamp message initiator (world.step (.transition initiator)) := by
  have hscript : script stamp message initiator initiator = initiatorScript stamp message :=
    if_pos rfl
  have hoth : script stamp message initiator initiator.peer = responderScript stamp message :=
    if_neg initiator.peer_ne
  have hisAt := h.isAt initiator
  have hlane := h.lanes initiator.peer
  rw [hscript] at hisAt
  rw [peer_peer, hscript, hoth] at hlane
  match hp : progress initiator with
  | 0 =>
    rw [hp] at hisAt
    obtain ⟨set, hsend, hset⟩ := hisAt.stands.sendPrepare hprop
    refine h.step_perform (step_transition hisAt rfl rfl) hscript hp ⟨hsend, ?_, ?_, nofun⟩
      (isAt_perform_write hsend hset hisAt.stands)
    all_goals exact fun | 0 => rfl | 1 => rfl
  | 2 =>
    rw [hp] at hisAt
    refine h.step_hear (step_transition hisAt rfl rfl) hscript hp
      (exchangeRecord stamp message .prepared) rfl ?_ (fun hnone => ?_) (fun hsome => ?_)
      (fun | 0 => rfl | 1 => rfl)
    · rw [hlane 0]
      simp only [responderScript, initiatorScript]
      split_ifs <;> simp
    · have hwait := hisAt.stands.nextRouteTransition_pending rfl (.inr rfl) ⟨.written, []⟩
      rwa [← hnone] at hwait
    · obtain ⟨set, hread, hset⟩ := hisAt.stands.hearPrepared hprop ⟨.written, []⟩
      rw [← hsome] at hread
      exact ⟨set, _, _, hread, fun | 0 => rfl | 1 => rfl,
        isAt_perform_return hread hset hisAt.writes⟩
  | 3 =>
    rw [hp] at hisAt
    obtain ⟨set, hsend, hset⟩ := hisAt.stands.sendCommit hprop
    refine h.step_perform (step_transition hisAt rfl rfl) hscript hp ⟨hsend, ?_, ?_, nofun⟩
      (isAt_perform_write hsend hset hisAt.stands)
    all_goals exact fun | 0 => rfl | 1 => rfl
  | 5 =>
    rw [hp] at hisAt hlane
    refine h.step_hear (step_transition hisAt rfl rfl) hscript hp
      (exchangeRecord stamp message .activated) rfl ?_ (fun hnone => ?_) (fun hsome => ?_)
      (fun | 0 => rfl | 1 => rfl)
    · rw [hlane]
      by_cases hq : progress initiator.peer < 4 <;> simp [responderScript, initiatorScript, hq]
    · have hwait := hisAt.stands.nextRouteActivation_pending ⟨.written, []⟩
      rwa [← hnone] at hwait
    · obtain ⟨set, hread, hset⟩ := hisAt.stands.hearActivated hprop
      rw [← hsome] at hread
      exact ⟨set, _, _, hread, fun | 0 => rfl | 1 => rfl,
        isAt_perform_write hread hset hisAt.stands⟩
  | 1 | 4 | 6 =>
    rw [hp] at hisAt
    exact h.step_rest hisAt (.inl rfl)
  | _ + 7 =>
    rw [hp] at hisAt
    exact h.step_rest hisAt (.inr rfl)

include hprop h in
theorem Joined.responder_transition :
    StaysJoined stamp message initiator (world.step (.transition initiator.peer)) := by
  have hscript : script stamp message initiator initiator.peer = responderScript stamp message :=
    if_neg initiator.peer_ne
  have hoth : script stamp message initiator initiator = initiatorScript stamp message :=
    if_pos rfl
  have hisAt := h.isAt initiator.peer
  have hlane := h.lanes initiator
  rw [hscript] at hisAt
  rw [hscript, hoth] at hlane
  match hp : progress initiator.peer with
  | 0 =>
    rw [hp] at hisAt hlane
    refine h.step_hear (step_transition hisAt rfl rfl) hscript hp
      (exchangeRecord stamp message .prepare) rfl ?_ (fun hnone => ?_) (fun hsome => ?_)
      (fun | 0 => rfl | 1 => rfl)
    · rw [peer_peer, hlane]
      by_cases hq : progress initiator = 0
      · simp [initiatorScript, hq]
      · by_cases hq' : progress initiator < 4 <;>
          simp [responderScript, initiatorScript, hq, hq']
    · have hwait := hisAt.stands.nextRouteTransition_pending rfl (.inl rfl) ⟨.written, []⟩
      rwa [← hnone] at hwait
    · obtain ⟨set, hread, hset⟩ := hisAt.stands.hearPrepare hprop ⟨.written, []⟩
      rw [← hsome] at hread
      exact ⟨set, _, _, hread, fun | 0 => rfl | 1 => rfl,
        isAt_perform_return hread hset hisAt.writes⟩
  | 1 =>
    rw [hp] at hisAt
    obtain ⟨set, hsend, hset⟩ := hisAt.stands.sendPrepared hprop
    refine h.step_perform (step_transition hisAt rfl rfl) hscript hp ⟨hsend, ?_, ?_, nofun⟩
      (isAt_perform_write hsend hset hisAt.stands)
    all_goals exact fun | 0 => rfl | 1 => rfl
  | 3 =>
    rw [hp] at hisAt hlane
    refine h.step_hear (step_transition hisAt rfl rfl) hscript hp
      (exchangeRecord stamp message .commit) rfl ?_ (fun hnone => ?_) (fun hsome => ?_)
      (fun | 0 => rfl | 1 => rfl)
    · rw [peer_peer, hlane]
      by_cases hq : progress initiator = 0
      · simp [initiatorScript, hq]
      · by_cases hq' : progress initiator < 4 <;>
          simp [responderScript, initiatorScript, hq, hq']
    · have hwait := hisAt.stands.nextRouteTransition_pending rfl (.inr rfl) ⟨.written, []⟩
      rwa [← hnone] at hwait
    · obtain ⟨⟨set, hread, hset⟩, hfoll⟩ := hisAt.stands.hearCommit hprop
      rw [← hsome] at hread hfoll
      exact ⟨set, _, _, hread, fun | 0 => rfl | 1 => rfl, isAt_perform_write hread hset hfoll⟩
  | 5 =>
    rw [hp] at hisAt hlane
    refine h.step_hear (step_transition hisAt rfl rfl) hscript hp
      (exchangeRecord stamp message .confirmed) rfl ?_ (fun hnone => ?_) (fun hsome => ?_)
      (fun | 0 => rfl | 1 => rfl)
    · rw [peer_peer, hlane]
      by_cases hq : progress initiator < 6 <;> simp [responderScript, initiatorScript, hq]
    · have hwait := hisAt.stands.nextRouteConfirmation_pending
      rwa [← hnone] at hwait
    · obtain ⟨set, hread, hset⟩ := hisAt.stands.hearConfirmed hprop
      rw [← hsome] at hread
      exact ⟨set, _, _, hread, fun | 0 => rfl | 1 => rfl,
        isAt_perform_return hread hset hisAt.writes⟩
  | 2 | 4 =>
    rw [hp] at hisAt
    exact h.step_rest hisAt (.inl rfl)
  | _ + 6 =>
    rw [hp] at hisAt
    exact h.step_rest hisAt (.inr rfl)

include hprop h in
/-- An endpoint takes the next step of its program. -/
theorem Joined.transition (side : Side) :
    StaysJoined stamp message initiator (world.step (.transition side)) := by
  by_cases hside : side = initiator
  · subst hside
    exact h.initiator_transition hprop
  obtain rfl : side = initiator.peer := by
    cases side <;> cases initiator <;> first | rfl | exact absurd rfl hside
  exact h.responder_transition hprop

/-! ## Writes that return -/

/-- The point behind a write: nothing is sent or read. -/
structure Script.Settles (script : Script) (p : Nat) (after : Standing) : Prop where
  point : script.point (p + 1) = ⟨(script.point p).program, after, none⟩
  sent : ∀ route, script.sent (p + 1) route = script.sent p route
  read : ∀ route, script.read (p + 1) route = script.read p route

theorem settles_of_writing
    (h : ((script stamp message initiator side).point p).writing = some after) :
    (script stamp message initiator side).Settles p after := by
  unfold script at h ⊢
  split_ifs at h ⊢
  · match p with
    | 1 | 4 | 6 =>
      cases h
      exact ⟨rfl, fun | 0 => rfl | 1 => rfl, fun | 0 => rfl | 1 => rfl⟩
    | 0 | 2 | 3 | 5 | _ + 7 => cases h
  · match p with
    | 2 | 4 =>
      cases h
      exact ⟨rfl, fun | 0 => rfl | 1 => rfl, fun | 0 => rfl | 1 => rfl⟩
    | 0 | 1 | 3 | 5 | _ + 6 => cases h

/-- Where the current set is open, nothing is closed. -/
theorem Stands.closedAs {set current : ProductRouteSet} (h : Stands stamp message set after)
    (hcurr : Stands stamp message current standing) :
    Stands stamp message (set.closedAs current) after := by
  refine { h with routes := fun route => { h.routes route with isOpen := ?_ } }
  show ((set.routes route).connectionClosed || (current.routes route).connectionClosed) = false
  rw [(h.routes route).isOpen, (hcurr.routes route).isOpen]
  rfl

include h in
/-- A write of an endpoint returns. -/
theorem Joined.written (side : Side) :
    StaysJoined stamp message initiator (world.step (.written side)) := by
  have hisAt := h.isAt side
  have hwrites := hisAt.writes
  unfold step
  dsimp only
  cases hwriting : ((script stamp message initiator side).point _).writing with
  | none =>
    rw [hwriting] at hwrites
    rw [show world.underway side = none from hwrites]
    exact ⟨rfl, progress, h⟩
  | some after =>
    rw [hwriting] at hwrites
    obtain ⟨_, _, _, sent, hunder, hset⟩ := hwrites
    have hsett := settles_of_writing hwriting
    have hkept {β : Type} (field : Script → Nat → RouteIndex → β)
        (hfield : ∀ route, field (script stamp message initiator side) (progress side + 1) route =
          field (script stamp message initiator side) (progress side) route) (other route) :
        field (script stamp message initiator other)
          (update progress side (progress side + 1) other) route =
            field (script stamp message initiator other) (progress other) route := by
      by_cases hoth : other = side
      · rw [hoth, update_self, hfield]
      · rw [update_of_ne hoth]
    rw [hunder]
    refine ⟨rfl, update progress side (progress side + 1), ?_, ?_, ?_⟩
    · intro other
      by_cases hoth : other = side
      · subst hoth
        rw [update_self, hsett.point]
        refine ⟨hisAt.program, ?_, update_self ..⟩
        show Stands stamp message (update world.sets other _ other) after
        rw [update_self]
        exact hset.closedAs hisAt.stands
      · rw [update_of_ne hoth]
        refine ⟨(h.isAt other).program, ?_, ?_⟩
        · show Stands stamp message (update world.sets side _ other) _
          rw [update_of_ne hoth]
          exact (h.isAt other).stands
        · show Writes stamp message (update world.underway side _ other) _
          rw [update_of_ne hoth]
          exact (h.isAt other).writes
    · intro other route
      rw [hkept Script.sent hsett.sent, hkept Script.read hsett.read]
      exact h.lanes other route
    · intro other route
      rw [hkept Script.sent hsett.sent, hkept Script.read hsett.read]
      exact h.read_le other route

end

end LatencyDesk.SocketTransport
