import LatencyDesk.Input.Replay
import LatencyDesk.Lib.Switches

/-!
# The reconciler mirrors the platform

A keyboard and a mouse are a board of switches, one for each key code and each
button number.  The platform starts with every switch off and executes the
actions that the calls return.  `Mirrors.stepAt` says that the actions of one
call take the board of the state before it to the board of the state after it
and that none of them is redundant, and from it `mirrors_run` follows for
whole runs.

The messages are those that some byte string decodes to.  Their key codes and
buttons are in range, so `apply` never fails.
-/

namespace LatencyDesk.Input

open Lib InputReconciler List Function InputState UInt16 List.Vector Except

/-- A key or a button. -/
inductive Control where
  | key (code : UInt16)
  | button (button : UInt8)
deriving DecidableEq

/-- The controls that a reconciliation visits, in its order. -/
def controls : List Control := keyCodes.map .key ++ buttonNumbers.map .button

/-- What is pressed, as a board. -/
def InputState.pressed (state : InputState) : Board Control
  | .key code => state.keyPressed code
  | .button button => state.buttonPressed button

/-- Nothing is pressed. -/
def released : Board Control := fun _ => false

/-- What an action does to the board.  Motion and wheel press nothing. -/
def AppliedInput.switch : AppliedInput → Option (Control × Bool)
  | .key code pressed => some (.key code, pressed)
  | .pointerButton button pressed => some (.button button, pressed)
  | .pointerMotionRelative _ _ => none
  | .pointerMotionAbsolute _ _ _ _ => none
  | .wheel _ _ => none

/-- The switches that a list of actions sets, in order. -/
def switches (actions : List AppliedInput) : List (Control × Bool) :=
  actions.filterMap AppliedInput.switch

/-- The actions take the first board to the second, and none is redundant. -/
structure Drives (actions : List AppliedInput) (board board' : Board Control) : Prop where
  reaches : setAll board (switches actions) = board'
  effective : Effective board (switches actions)

theorem Drives.nil {board : Board Control} : Drives [] board board := ⟨rfl, trivial⟩

theorem switches_append (xs ys : List AppliedInput) :
    switches (xs ++ ys) = switches xs ++ switches ys :=
  filterMap_append

variable {board : Board Control} {pressed : Bool} {state state' : InputState}
  {control : Control} {action : AppliedInput} {code : UInt16} {button : UInt8}
  {board' : Board Control}

theorem Drives.append {xs ys : List AppliedInput} {board'' : Board Control}
    (hxs : Drives xs board board') (hys : Drives ys board' board'') :
    Drives (xs ++ ys) board board'' := by
  refine ⟨?_, ?_⟩
  · rw [switches_append, setAll_append, hxs.reaches, hys.reaches]
  · rw [switches_append, effective_append, hxs.reaches]
    exact ⟨hxs.effective, hys.effective⟩

/-- The flips between two boards that agree off the visited switches. -/
theorem drives_of_flips {actions : List AppliedInput} {keys : List Control}
    (hflips : switches actions = flips board board' keys) (hnodup : keys.Nodup)
    (hrest : ∀ control, control ∉ keys → board control = board' control) :
    Drives actions board board' := by
  refine ⟨?_, ?_⟩
  · rw [hflips, setAll_flips _ _ hnodup]
    funext control
    by_cases hctl : control ∈ keys
    · rw [if_pos hctl]
    · rw [if_neg hctl, hrest control hctl]
  · rw [hflips]
    exact effective_flips _ _ hnodup

/-- An action that sets one switch the other way. -/
theorem drives_one (haction : action.switch = some (control, pressed))
    (hne : board control ≠ pressed) :
    Drives [action] board (setOne board (control, pressed)) := by
  have hswitches : switches [action] = [(control, pressed)] := by
    simp [switches, haction]
  refine ⟨?_, ?_⟩
  · rw [hswitches, setAll_cons, setAll_nil]
  · rw [hswitches]
    exact ⟨hne, trivial⟩

/-- An action that presses nothing. -/
theorem drives_none (haction : action.switch = none) :
    Drives [action] board board := by
  have hswitches : switches [action] = [] := by
    simp [switches, haction]
  refine ⟨?_, ?_⟩
  · rw [hswitches, setAll_nil]
  · rw [hswitches]
    trivial

/-! ## The bits of the state -/

theorem mem_keyCodes : code ∈ keyCodes ↔ code ≤ maxKeyCode := by
  rw [keyCodes, mem_map]
  constructor
  · rintro ⟨n, hn, rfl⟩
    rw [mem_range] at hn
    rw [le_iff_toNat_le, toNat_ofNat_of_lt' (by show n < 65536; omega)]
    show n ≤ 511
    omega
  · intro hle
    have hle' : code.toNat ≤ 511 := le_iff_toNat_le.1 hle
    exact ⟨code.toNat, mem_range.2 (by omega), UInt16.ofNat_toNat⟩

theorem mem_buttonNumbers : button ∈ buttonNumbers ↔ button < 16 := by
  rw [buttonNumbers, mem_map]
  constructor
  · rintro ⟨n, hn, rfl⟩
    rw [mem_range] at hn
    rw [UInt8.lt_iff_toNat_lt, UInt8.toNat_ofNat_of_lt' (by show n < 256; omega)]
    exact hn
  · intro hlt
    have hlt' : button.toNat < 16 := UInt8.lt_iff_toNat_lt.1 hlt
    exact ⟨button.toNat, mem_range.2 hlt', UInt8.ofNat_toNat⟩

theorem nodup_keyCodes : keyCodes.Nodup := by
  apply List.Nodup.map_on _ nodup_range
  intro m hm n hn heq
  rw [mem_range] at hm hn
  have hnat := congrArg UInt16.toNat heq
  rwa [toNat_ofNat_of_lt' (by show m < 65536; omega),
    toNat_ofNat_of_lt' (by show n < 65536; omega)] at hnat

theorem nodup_buttonNumbers : buttonNumbers.Nodup := by decide

theorem nodup_controls : controls.Nodup := by
  apply List.Nodup.append
  · exact nodup_keyCodes.map fun _ _ heq => Control.key.inj heq
  · exact nodup_buttonNumbers.map fun _ _ heq => Control.button.inj heq
  · intro control hkey hbutton
    rw [mem_map] at hkey hbutton
    obtain ⟨_, _, rfl⟩ := hkey
    obtain ⟨_, _, heq⟩ := hbutton
    simp at heq

/-- No control outside the visited ones is ever pressed. -/
theorem pressed_of_not_mem (hctl : control ∉ controls) : state.pressed control = false := by
  cases control with
  | key code =>
    have hcode : ¬ code ≤ maxKeyCode := by
      rw [← mem_keyCodes]
      intro hmem
      exact hctl (mem_append_left _ (mem_map_of_mem hmem))
    exact dif_neg hcode
  | button button =>
    have hbutton : ¬ button < 16 := by
      rw [← mem_buttonNumbers]
      intro hmem
      exact hctl (mem_append_right _ (mem_map_of_mem hmem))
    simp [pressed, buttonPressed, hbutton]

theorem pressed_default : InputState.default.pressed = released := by
  funext control
  cases control with
  | key code =>
    show InputState.default.keyPressed code = false
    unfold InputState.keyPressed
    split_ifs
    · rw [InputState.default, get_replicate]
      exact hasBit_zero
    · rfl
  | button button =>
    simp [InputState.pressed, InputState.buttonPressed, InputState.default, released]

/-- A key that was set reads back, and every other key is unchanged. -/
theorem keyPressed_setKey (h : state.setKey code pressed = .ok state') {code' : UInt16} :
    state'.keyPressed code' = if code' = code then pressed else state.keyPressed code' := by
  unfold setKey at h
  split_ifs at h with hcode
  obtain rfl := ok.inj h
  unfold keyPressed
  by_cases hcode' : code' ≤ maxKeyCode
  · rw [dif_pos hcode', dif_pos hcode']
    have hbit : code.toNat % 64 < 64 := Nat.mod_lt _ (by decide)
    have hbit' : code'.toNat % 64 < 64 := Nat.mod_lt _ (by decide)
    by_cases hword : keyWord code' hcode' = keyWord code hcode
    · -- In one word, the codes are the same when their bits are.
      have hdiv : code'.toNat / 64 = code.toNat / 64 := congrArg Fin.val hword
      have hsame : code'.toNat % 64 = code.toNat % 64 ↔ code' = code := by
        rw [← UInt16.toNat_inj]
        omega
      rw [hword, get_set_same, hasBit_putBit _ hbit hbit']
      simp only [hsame]
    · have hne : code' ≠ code := by
        intro heq
        subst heq
        exact hword rfl
      rw [get_set_of_ne (Ne.symm hword), if_neg hne]
  · have hne : code' ≠ code := by
      intro heq
      exact hcode' (heq ▸ hcode)
    rw [dif_neg hcode', dif_neg hcode', if_neg hne]

/-- A button that was set reads back, and every other button is unchanged. -/
theorem buttonPressed_setButton (h : state.setButton button pressed = .ok state')
    {button' : UInt8} :
    state'.buttonPressed button' =
      if button' = button then pressed else state.buttonPressed button' := by
  unfold setButton at h
  split_ifs at h with hbutton
  obtain rfl := ok.inj h
  have hlt : button.toNat < 16 := UInt8.lt_iff_toNat_lt.1 (UInt8.not_le.1 hbutton)
  unfold buttonPressed
  by_cases hbutton' : button' < 16
  · have hlt' : button'.toNat < 16 := UInt8.lt_iff_toNat_lt.1 hbutton'
    rw [hasBit_putBit _ hlt hlt', decide_eq_true hbutton', Bool.true_and, Bool.true_and]
    simp only [UInt8.toNat_inj]
  · have hne : button' ≠ button := by
      intro heq
      exact hbutton' (heq ▸ UInt8.not_le.1 hbutton)
    rw [decide_eq_false hbutton', Bool.false_and, Bool.false_and, if_neg hne]

theorem setKey_buttons (h : state.setKey code pressed = .ok state') :
    state'.buttons = state.buttons := by
  unfold setKey at h
  split_ifs at h
  obtain rfl := ok.inj h
  rfl

theorem setButton_keyWords (h : state.setButton button pressed = .ok state') :
    state'.keyWords = state.keyWords := by
  unfold setButton at h
  split_ifs at h
  obtain rfl := ok.inj h
  rfl

/-- `set_key` sets one switch. -/
theorem pressed_setKey (h : state.setKey code pressed = .ok state') :
    state'.pressed = setOne state.pressed (.key code, pressed) := by
  funext control
  rw [setOne, update_apply]
  cases control with
  | key code' =>
    simp only [Control.key.injEq]
    exact keyPressed_setKey h
  | button button =>
    simp [InputState.pressed, buttonPressed, setKey_buttons h]

/-- `set_button` sets one switch. -/
theorem pressed_setButton (h : state.setButton button pressed = .ok state') :
    state'.pressed = setOne state.pressed (.button button, pressed) := by
  funext control
  rw [setOne, update_apply]
  cases control with
  | key code => simp [InputState.pressed, keyPressed, setButton_keyWords h]
  | button button' =>
    simp only [Control.button.injEq]
    exact buttonPressed_setButton h

/-! ## One call -/

variable (r : InputReconciler) (snapshot : InputState)

/-- Both loops of a reconciliation act where the boards differ. -/
theorem switches_reconcileSnapshot :
    switches (r.reconcileSnapshot snapshot).1 =
      flips r.state.pressed snapshot.pressed controls := by
  have hkeys (codes : List UInt16) :
      switches ((codes.filter fun code => r.state.keyPressed code != snapshot.keyPressed code).map
        fun code => .key code (snapshot.keyPressed code)) =
      flips r.state.pressed snapshot.pressed (codes.map .key) := by
    rw [switches, flips, filterMap_map, filter_map, List.map_map]
    exact congrFun filterMap_eq_map _
  have hbuttons (buttons : List UInt8) :
      switches ((buttons.filter fun button =>
          r.state.buttonPressed button != snapshot.buttonPressed button).map
        fun button => .pointerButton button (snapshot.buttonPressed button)) =
      flips r.state.pressed snapshot.pressed (buttons.map .button) := by
    rw [switches, flips, filterMap_map, filter_map, List.map_map]
    exact congrFun filterMap_eq_map _
  rw [reconcileSnapshot, switches_append, hkeys, hbuttons, controls, flips_append]

/-- A reconciliation drives the board to the snapshot. -/
theorem reconcileSnapshot_drives :
    Drives (r.reconcileSnapshot snapshot).1 r.state.pressed snapshot.pressed := by
  apply drives_of_flips (switches_reconcileSnapshot r snapshot) nodup_controls
  intro control hctl
  rw [pressed_of_not_mem hctl, pressed_of_not_mem hctl]

/-- `release_all` releases everything. -/
theorem releaseAll_drives :
    Drives r.releaseAll.1 r.state.pressed released := by
  rw [← pressed_default]
  exact reconcileSnapshot_drives r .default

/-- What an event is for: the board that it asks for. -/
def InputEvent.act (board : Board Control) : InputEvent → Board Control
  | .key code pressed => setOne board (.key code, pressed)
  | .pointerButton button pressed => setOne board (.button button, pressed)
  | .snapshot state => state.pressed
  | .releaseAll => released
  | _ => board

/-- The event is a press or a snapshot. -/
def InputEvent.MayPress : InputEvent → Prop
  | .key _ pressed => pressed = true
  | .pointerButton _ pressed => pressed = true
  | .snapshot _ => True
  | _ => False

theorem setOne_of_eq (h : board control = pressed) : setOne board (control, pressed) = board := by
  subst h
  exact update_eq_self control board

variable {event : InputEvent}

theorem act_released (hev : ¬ event.MayPress) :
    event.act released = released := by
  cases event with
  | key code pressed | pointerButton button pressed =>
    exact setOne_of_eq (Bool.eq_false_of_not_eq_true hev).symm
  | snapshot state => exact absurd trivial hev
  | _ => rfl

open Drives

/-- An event in range does not fail.  Its actions drive the board to the one
that it asks for, and nothing but the state changes. -/
theorem applyFresh_drives (hrange : event.InRange) :
    ∃ actions state, r.applyFresh event = (.ok actions, { r with state := state }) ∧
      Drives actions r.state.pressed state.pressed ∧
      state.pressed = event.act r.state.pressed := by
  cases event with
  | key code pressed =>
    simp only [applyFresh]
    split
    · next hsame => exact ⟨[], r.state, rfl, nil, (setOne_of_eq hsame).symm⟩
    next hsame =>
    obtain ⟨state, hset⟩ : ∃ state, r.state.setKey code pressed = .ok state := ⟨_, dif_pos hrange⟩
    have hpressed := pressed_setKey hset
    rw [hset]
    refine ⟨_, state, rfl, ?_, hpressed⟩
    rw [hpressed]
    exact drives_one rfl hsame
  | pointerButton button pressed =>
    simp only [applyFresh]
    split
    · next hsame => exact ⟨[], r.state, rfl, nil, (setOne_of_eq hsame).symm⟩
    next hsame =>
    obtain ⟨state, hset⟩ : ∃ state, r.state.setButton button pressed = .ok state :=
      ⟨_, if_neg (UInt8.not_le.2 hrange)⟩
    have hpressed := pressed_setButton hset
    rw [hset]
    refine ⟨_, state, rfl, ?_, hpressed⟩
    rw [hpressed]
    exact drives_one rfl hsame
  | pointerMotionRelative dx dy | pointerMotionAbsolute x y width height
  | wheel horizontal vertical => exact ⟨_, r.state, rfl, drives_none rfl, rfl⟩
  | snapshot snapshot => exact ⟨_, snapshot, rfl, reconcileSnapshot_drives r snapshot, rfl⟩
  | releaseAll =>
    refine ⟨_, .default, rfl, reconcileSnapshot_drives r .default, pressed_default⟩

/-- The actions for the platform. -/
def ReconcileOutcome.actions : ReconcileOutcome → List AppliedInput
  | .applied actions => actions
  | .ignoredStaleSequence => []
  | .ignoredStaleEpoch => []

/-- Before the first message nothing is numbered and nothing is pressed. -/
def FreshUntilUsed (r : InputReconciler) : Prop :=
  r.epoch = none → r.lastSequence = none ∧ r.state.pressed = released

/-- The message is ignored. -/
structure Ignores (r : InputReconciler)
    (answer : Except InputError ReconcileOutcome × InputReconciler) : Prop where
  result : answer.1 = .ok .ignoredStaleSequence ∨ answer.1 = .ok .ignoredStaleEpoch
  state : answer.2.state = r.state
  kept : FreshUntilUsed r → answer.2.epoch = r.epoch ∧ answer.2.lastSequence = r.lastSequence

/-- The message is applied to the board `board`. -/
structure Applies (r : InputReconciler) (message : InputMessage) (board : Board Control)
    (answer : Except InputError ReconcileOutcome × InputReconciler) : Prop where
  result : ∃ actions, answer.1 = .ok (.applied actions) ∧
    Drives actions r.state.pressed answer.2.state.pressed
  pressed : FreshUntilUsed r → answer.2.state.pressed = message.event.act board
  epoch : answer.2.epoch = some message.sessionEpoch

section Apply

variable {r : InputReconciler} {message : InputMessage}

section

variable (hrange : message.event.InRange)

include hrange

theorem applySequenced_mirrors (hep : r.epoch = some message.sessionEpoch) :
    (Ignores r (r.applySequenced message) ∧ r.lastSequence ≠ none) ∨
      Applies r message r.state.pressed (r.applySequenced message) := by
  unfold applySequenced
  split
  · next hstale =>
    refine .inl ⟨⟨.inl rfl, rfl, fun _ => ⟨rfl, rfl⟩⟩, ?_⟩
    intro hnone
    rw [hnone] at hstale
    exact Bool.false_ne_true hstale
  · obtain ⟨actions, _, hfresh, hdrives, hact⟩ := applyFresh_drives r hrange
    rw [hfresh]
    exact .inr ⟨⟨actions, rfl, hdrives⟩, fun _ => hact, hep⟩

/-- A newer epoch starts from a released board. -/
theorem applyNewer_mirrors : Applies r message released (r.applyNewer message) := by
  obtain ⟨_, state, hfresh, hdrives, hact⟩ := applyFresh_drives
    { r.releaseAll.2 with
      epoch := some message.sessionEpoch
      epochRetired := false
      lastSequence := none } hrange
  have hempty : r.releaseAll.2.state.pressed = released := pressed_default
  rw [hempty] at hdrives hact
  unfold applyNewer
  rw [hfresh]
  exact ⟨⟨_, rfl, (releaseAll_drives r).append hdrives⟩, fun _ => hact, rfl⟩

theorem applyActive_mirrors :
    Ignores r (r.applyActive message) ∨
      Applies r message
        (if r.epoch = some message.sessionEpoch then r.state.pressed else released)
        (r.applyActive message) := by
  unfold applyActive
  cases hep : r.epoch with
  | none =>
    -- the first message is applied, unless the reconciler was numbered before
    rcases applySequenced_mirrors
      (r := { r with epoch := some message.sessionEpoch, epochRetired := false }) hrange rfl with
      ⟨hignores, hnumd⟩ | happlies
    · exact .inl ⟨hignores.result, hignores.state, fun h => absurd (h hep).1 hnumd⟩
    · refine .inr ⟨happlies.result, fun h => ?_, happlies.epoch⟩
      rw [happlies.pressed nofun, if_neg nofun, ← (h hep).2]
  | some epoch =>
    dsimp only
    split
    · exact .inl ⟨.inr rfl, rfl, fun _ => ⟨hep.symm ▸ rfl, rfl⟩⟩
    next hlt =>
    split
    · next hgt =>
      rw [if_neg fun heq => UInt32.ne_of_lt hgt (Option.some.inj heq)]
      exact .inr (applyNewer_mirrors hrange)
    · next hgt =>
      have heq : epoch = message.sessionEpoch :=
        UInt32.le_antisymm (UInt32.not_lt.1 hlt) (UInt32.not_lt.1 hgt)
      rw [heq] at hep
      rw [if_pos (congrArg some heq)]
      exact (applySequenced_mirrors hrange hep).imp And.left id

/-- A message that names a key and a button in range does not fail.  It is
ignored, or applied to the board of its epoch: the present one, or the released
one when the epoch changes. -/
theorem apply_mirrors :
    Ignores r (r.apply message) ∨
      Applies r message
        (if r.epoch = some message.sessionEpoch then r.state.pressed else released)
        (r.apply message) := by
  unfold apply
  split
  · split
    · exact .inl ⟨.inr rfl, rfl, fun _ => ⟨rfl, rfl⟩⟩
    rcases applyActive_mirrors (r := { r with epochRetired := false }) hrange with
      hignores | happlies
    · exact .inl { hignores with }
    · exact .inr { happlies with }
  · exact applyActive_mirrors hrange

/-- The actions of a message take the board of the state before to the one after. -/
theorem apply_drives :
    ∃ outcome, (r.apply message).1 = .ok outcome ∧
      Drives outcome.actions r.state.pressed (r.apply message).2.state.pressed := by
  rcases apply_mirrors hrange with hignores | ⟨⟨actions, hres, hdrives⟩, -, -⟩
  · rw [hignores.state]
    rcases hignores.result with hres | hres <;> exact ⟨_, hres, nil⟩
  · exact ⟨_, hres, hdrives⟩

end

end Apply

/-! ## Runs -/

/-- The actions that the call returned. -/
def ReconcilerEvent.actions : ReconcilerEvent → List AppliedInput
  | .apply _ (.ok outcome) => outcome.actions
  | .apply _ (.error _) => []
  | .disconnectReleasePlan actions => actions
  | .releaseAllPlan actions => actions

/-- The board of the platform after it executed the actions of a trace. -/
def platform (h : InputTrace) : Board Control :=
  setAll released (switches (h.flatMap fun st => st.event.actions))

theorem platform_snoc (h : InputTrace) (st : Step InputReconciler ReconcilerEvent) :
    platform (h ++ [st]) = setAll (platform h) (switches st.event.actions) := by
  rw [platform, flatMap_append, flatMap_singleton, switches_append, setAll_append]
  rfl

/-- Some bytes decode to the message of the call. -/
def Decoded : InputCall → Prop
  | .apply message =>
    ∃ bytes envelope, decodeEnvelope bytes = .ok envelope ∧ envelope.message = message
  | _ => True

/-- After the trace, this event lets go of everything: a release call, an
applied `ReleaseAll`, or the first applied message of a newer epoch unless that
message is a press or a snapshot. -/
def LetsGo (h : InputTrace) : ReconcilerEvent → Prop
  | .apply message (.ok (.applied _)) =>
    message.event = .releaseAll ∨
      (¬ message.event.MayPress ∧ ∀ stamp ∈ appliedStamps h, stamp.1 < message.sessionEpoch)
  | .apply _ _ => False
  | .disconnectReleasePlan _ => True
  | .releaseAllPlan _ => True

/-- The reconciler after the trace shows the platform.  An epoch that it has
was brought by an applied message. -/
structure Mirrors (h : InputTrace) (r : InputReconciler) : Prop where
  board : platform h = r.state.pressed
  unused : FreshUntilUsed r
  used : ∀ epoch, r.epoch = some epoch → ∃ stamp ∈ appliedStamps h, stamp.1 = epoch

/-- What one call gives. -/
structure MirrorsStep (h : InputTrace) (st : Step InputReconciler ReconcilerEvent) : Prop where
  drives : Drives st.event.actions st.pre.state.pressed st.post.state.pressed
  noError : ∀ message error, st.event ≠ .apply message (.error error)
  letsGo : LetsGo h st.event → st.post.state.pressed = released
  unused : FreshUntilUsed st.post
  used : ∀ epoch, st.post.epoch = some epoch →
    st.pre.epoch = some epoch ∨ ∃ stamp, st.event.applied = some stamp ∧ stamp.1 = epoch

section Step

variable {h : InputTrace} {r : InputReconciler} {message : InputMessage}

theorem Ignores.mirrorsStep (hignores : Ignores r (r.apply message))
    (hmirr : Mirrors h r) : MirrorsStep h (inputMachine.stepAt r (.apply message)) := by
  have hres : ∃ outcome, (r.apply message).1 = .ok outcome ∧ outcome.actions = [] ∧
      ¬ LetsGo h (.apply message (.ok outcome)) := by
    rcases hignores.result with hres | hres
    all_goals exact ⟨_, hres, rfl, id⟩
  obtain ⟨outcome, hres, hactions, hkeeps⟩ := hres
  obtain ⟨hepoch, hlast⟩ := hignores.kept hmirr.unused
  have hev : (inputMachine.stepAt r (.apply message)).event = .apply message (.ok outcome) :=
    congrArg (ReconcilerEvent.apply message) hres
  refine ⟨?_, ?_, ?_, ?_, ?_⟩
  · rw [hev]
    show Drives outcome.actions r.state.pressed (r.apply message).2.state.pressed
    rw [hactions, hignores.state]
    exact nil
  · rw [hev]
    simp
  · rw [hev]
    intro hletsGo
    exact absurd hletsGo hkeeps
  · intro hnone
    show (r.apply message).2.lastSequence = none ∧ (r.apply message).2.state.pressed = released
    rw [hlast, hignores.state]
    exact hmirr.unused (hepoch ▸ hnone)
  · intro epoch hep
    exact .inl (hepoch ▸ hep)

theorem Applies.mirrorsStep (happlies : Applies r message
      (if r.epoch = some message.sessionEpoch then r.state.pressed else released)
      (r.apply message))
    (hmirr : Mirrors h r) : MirrorsStep h (inputMachine.stepAt r (.apply message)) := by
  obtain ⟨actions, hres, hdrives⟩ := happlies.result
  have hev : (inputMachine.stepAt r (.apply message)).event =
      .apply message (.ok (.applied actions)) :=
    congrArg (ReconcilerEvent.apply message) hres
  refine ⟨?_, ?_, ?_, ?_, ?_⟩
  · rw [hev]
    exact hdrives
  · rw [hev]
    simp
  · rw [hev]
    intro hletsGo
    show (r.apply message).2.state.pressed = released
    rw [happlies.pressed hmirr.unused]
    rcases hletsGo with hall | ⟨hpress, hnewer⟩
    · rw [hall]
      rfl
    -- The epoch of the reconciler was brought by a message that was applied
    -- before, so a newer one is not its epoch.
    have hne : r.epoch ≠ some message.sessionEpoch := by
      intro hep
      obtain ⟨stamp, hstp, heq⟩ := hmirr.used _ hep
      have hlt := hnewer stamp hstp
      rw [heq] at hlt
      exact UInt32.lt_irrefl _ hlt
    rw [if_neg hne]
    exact act_released hpress
  · intro hnone
    have hsome : (inputMachine.stepAt r (.apply message)).post.epoch =
        some message.sessionEpoch := happlies.epoch
    rw [hsome] at hnone
    cases hnone
  · intro epoch hep
    have hsome : some message.sessionEpoch = some epoch := happlies.epoch.symm.trans hep
    rw [hev]
    exact .inr ⟨message.stamp, rfl, Option.some.inj hsome⟩

/-- Both release calls. -/
theorem mirrorsStep_releaseAll {r' : InputReconciler} {event : ReconcilerEvent}
    (hactions : event.actions = r.releaseAll.1)
    (hev : ∀ message res, event ≠ .apply message res)
    (hstate : r'.state = .default) (hep : r'.epoch = r.epoch)
    (hlast : r.epoch = none → r'.lastSequence = none) :
    MirrorsStep h ⟨r, event, r'⟩ := by
  have hrel : r'.state.pressed = released := by rw [hstate, pressed_default]
  refine ⟨?_, fun message e => hev message _, fun _ => hrel, ?_, ?_⟩
  · rw [hactions, hrel]
    exact releaseAll_drives r
  · intro hnone
    exact ⟨hlast (hep ▸ hnone), hrel⟩
  · intro epoch hsome
    exact .inl (hep ▸ hsome)

variable {call : InputCall}

theorem Mirrors.stepAt (hmirr : Mirrors h r) (hcall : Decoded call) :
    MirrorsStep h (inputMachine.stepAt r call) := by
  cases call with
  | apply message =>
    obtain ⟨_, _, hdec, rfl⟩ := hcall
    have hrange := inRange_of_decodeEnvelope hdec
    rcases apply_mirrors hrange with hignores | happlies
    · exact hignores.mirrorsStep hmirr
    · exact happlies.mirrorsStep hmirr
  | disconnectReleasePlan =>
    apply mirrorsStep_releaseAll
    · rfl
    · exact nofun
    · rfl
    · rfl
    · exact fun _ => rfl
  | releaseAllPlan =>
    apply mirrorsStep_releaseAll
    · rfl
    · exact nofun
    · rfl
    · rfl
    · exact fun hnone => (hmirr.unused hnone).1

theorem Mirrors.step (hmirr : Mirrors h r) (hcall : Decoded call) :
    Mirrors (h ++ [inputMachine.stepAt r call]) (inputMachine.step r call).2 := by
  have hstep := hmirr.stepAt hcall
  refine ⟨?_, hstep.unused, ?_⟩
  · rw [platform_snoc, hmirr.board]
    exact hstep.drives.reaches
  · intro epoch hep
    rw [appliedStamps, filterMap_snoc]
    rcases hstep.used epoch hep with hbef | ⟨stamp, happ, heq⟩
    · obtain ⟨stamp, hstp, heq⟩ := hmirr.used epoch hbef
      exact ⟨stamp, mem_append_left _ hstp, heq⟩
    · exact ⟨stamp, mem_append_right _ (Option.mem_toList.2 happ), heq⟩

end Step

theorem mirrors_run {calls : List InputCall} (hcalls : ∀ call ∈ calls, Decoded call) :
    Mirrors (inputMachine.trace .default calls) (inputMachine.run .default calls) := by
  refine inputMachine.trace_induction_of ?_ ?_ hcalls
  · refine ⟨pressed_default.symm, fun _ => ⟨rfl, pressed_default⟩, ?_⟩
    exact nofun
  · intro h r call hcall hmirr
    exact hmirr.step hcall

/-- A platform that starts with nothing pressed and executes every returned
action in order shows exactly the state of the reconciler after every call.
No action on a key or a button is redundant, no call fails, and nothing stays
pressed when the reconciler lets go. -/
theorem platform_shows_state {calls : List InputCall} (hcalls : ∀ call ∈ calls, Decoded call)
    {before after : InputTrace} {st : Step InputReconciler ReconcilerEvent}
    (htrace : inputMachine.trace .default calls = before ++ st :: after) :
    platform (before ++ [st]) = st.post.state.pressed ∧
      Effective (platform before) (switches st.event.actions) ∧
      (∀ message error, st.event ≠ .apply message (.error error)) ∧
      (LetsGo before st.event → platform (before ++ [st]) = released) := by
  obtain ⟨calls', call, _, rfl, rfl, rfl, -⟩ := inputMachine.trace_eq_append_cons htrace
  have hmirr : Mirrors (inputMachine.trace .default calls') (inputMachine.run .default calls') :=
    mirrors_run fun call' hcall' => hcalls call' (mem_append_left _ hcall')
  have hcall : Decoded call := hcalls call (mem_append_right _ mem_cons_self)
  have hstep := hmirr.stepAt hcall
  have hshows := (hmirr.step hcall).board
  refine ⟨hshows, ?_, hstep.noError, ?_⟩
  · rw [hmirr.board]
    exact hstep.drives.effective
  · intro hletsGo
    rw [hshows]
    exact hstep.letsGo hletsGo

/-- The key that was pressed in the first epoch is up after the first message of
the second. -/
theorem sample_platform_shows_state :
    platform (inputMachine.trace .default [.apply samplePress]) (.key 30) = true ∧
      platform (inputMachine.trace .default [.apply samplePress, .apply sampleWheel]) =
        released := by
  have hpress : decodeEnvelope samplePressBytes = .ok ⟨samplePress, false⟩ := by decide +kernel
  have hwheel : decodeEnvelope sampleWheelBytes = .ok ⟨sampleWheel, true⟩ := by decide +kernel
  have hcalls : ∀ call ∈ [InputCall.apply samplePress, .apply sampleWheel], Decoded call := by
    rw [forall_mem_cons, forall_mem_singleton]
    exact ⟨⟨_, _, hpress, rfl⟩, ⟨_, _, hwheel, rfl⟩⟩
  have hstamps : appliedStamps (inputMachine.trace .default [.apply samplePress]) = [(1, 5)] := by
    decide +kernel
  obtain ⟨-, -, -, hletsGo⟩ := @platform_shows_state _ hcalls
    (inputMachine.trace .default [.apply samplePress]) [] _ rfl
  refine ⟨by decide +kernel, hletsGo (Or.inr ⟨id, ?_⟩)⟩
  intro stamp hstp
  rw [hstamps, mem_singleton] at hstp
  rw [hstp]
  exact (by decide : (1 : UInt32) < 2)

end LatencyDesk.Input
