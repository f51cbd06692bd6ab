import RuuviGateway.Leds.Ctrl

/-!
# The task that drives the LEDs

`leds_task` takes signals.  Most of them are handed to `leds_ctrl` or, in `SUBSTATE`, to
`leds_ctrl2`; `UPDATE` comes from a timer and makes one step of the current blinking sequence.
The red LED is driven by the task itself, through an analog switch that the nRF52's reset line
and its programming pins use too: each user adds one to `g_switch_ctrl_cnt` and takes it back
afterwards.  The green LED belongs to the nRF52, so the task only publishes its state.
-/

namespace RuuviGateway
namespace Leds

/-! ## The blinking sequence -/

/-- `g_leds_blinking_mode` and `g_leds_blinking_sequence_idx`. -/
structure Blinking where
  pSequence : Option Sequence
  sequenceIdx : Nat
  deriving DecidableEq

/-- `leds_blinking_init`. -/
def Blinking.init (blinkingMode : Option Sequence) : Blinking := ⟨blinkingMode, 0⟩

/-- A character of a string literal, which ends with a NUL; nothing is known of what lies
behind it. -/
def charAt (sequence : Sequence) (i : Nat) : Option Char :=
  if i = sequence.length then some '\x00' else sequence[i]?

/-- The colour of a command; an assertion fails for any other character. -/
def colorOfCmd (cmd : Char) : Option LedsColor :=
  if cmd = 'R' then some .red
  else if cmd = 'G' then some .green
  else if cmd = '-' then some .off
  else none

/-- `leds_blinking_get_next`, with `leds_blinking_get_next_internal`. -/
def Blinking.getNext (b : Blinking) : Option (LedsColor × Blinking) := do
  let sequence ← b.pSequence
  let cmd ← charAt sequence b.sequenceIdx
  let next ← charAt sequence (b.sequenceIdx + 1)
  let idx := if next = '\x00' then 0 else b.sequenceIdx + 1
  let color ← colorOfCmd cmd
  pure (color, { b with sequenceIdx := idx })

/-- `leds_blinking_is_sequence_finished`. -/
def Blinking.isSequenceFinished (b : Blinking) : Bool := decide (b.sequenceIdx = 0)

/-- `leds_blinking_set_new_sequence`. -/
def Blinking.setNewSequence (b : Blinking) (blinkingMode : Option Sequence) : Option Blinking :=
  if blinkingMode.isNone then none
  else if b.sequenceIdx ≠ 0 then none
  else some { b with pSequence := blinkingMode }

/-! ## The board -/

/-- A periodic timer that sends a signal. -/
structure Timer where
  periodMs : Nat
  active : Bool
  deriving DecidableEq

/-- `LEDS_TASK_UPDATE_PERIOD_JUST_AFTER_REBOOT_MS`. -/
def ledsTaskUpdatePeriodJustAfterRebootMs : Nat := 25

/-- `LEDS_TASK_UPDATE_PERIOD_MS`. -/
def ledsTaskUpdatePeriodMs : Nat := 100

/-- What the task drives: the timer of `UPDATE`, the red LED, the users of the analog switch
(`g_switch_ctrl_cnt`) and the reset line of the nRF52. -/
structure Board where
  timerSigUpdate : Timer
  redLed : Bool
  switchCtrlCnt : Nat
  nrf52Reset : Bool
  deriving DecidableEq

/-- `gpio_switch_ctrl_activate`. -/
def gpioSwitchCtrlActivate (b : Board) : Board :=
  { b with switchCtrlCnt := b.switchCtrlCnt + 1 }

/-- `gpio_switch_ctrl_deactivate`. -/
def gpioSwitchCtrlDeactivate (b : Board) : Option Board :=
  if 0 < b.switchCtrlCnt then some { b with switchCtrlCnt := b.switchCtrlCnt - 1 } else none

/-- `nrf52fw_hw_reset_nrf52`. -/
def nrf52fwHwResetNrf52 (flagReset : Bool) (b : Board) : Option Board :=
  let b := if flagReset then gpioSwitchCtrlActivate b else b
  let b := { b with nrf52Reset := flagReset }
  if !flagReset then gpioSwitchCtrlDeactivate b else some b

/-- `leds_turn_on_red`. -/
def ledsTurnOnRed (b : Board) : Board := { gpioSwitchCtrlActivate b with redLed := true }

/-- `leds_turn_off_red`. -/
def ledsTurnOffRed (b : Board) : Option Board := gpioSwitchCtrlDeactivate { b with redLed := false }

/-- `leds_cb_on_enter_state_after_reboot`. -/
def ledsCbOnEnterStateAfterReboot (b : Board) : Board :=
  { b with timerSigUpdate := ⟨ledsTaskUpdatePeriodJustAfterRebootMs, true⟩ }

/-- `leds_cb_on_exit_state_after_reboot`. -/
def ledsCbOnExitStateAfterReboot (b : Board) : Board :=
  { b with timerSigUpdate := ⟨ledsTaskUpdatePeriodMs, true⟩ }

/-- `leds_cb_on_enter_state_before_reboot` as far as `leds_turn_off_red`. -/
def turnOffBeforeReboot (b : Board) : Option Board :=
  ledsTurnOffRed { b with timerSigUpdate := { b.timerSigUpdate with active := false } }

/-- `leds_cb_on_enter_state_before_reboot`, if no other task uses the switch between its two
calls. -/
def ledsCbOnEnterStateBeforeReboot (b : Board) : Option Board :=
  (turnOffBeforeReboot b).bind (nrf52fwHwResetNrf52 true)

/-- The callbacks that `leds_task` installs. -/
def ledsCallbacks : LedsCtrlCallbacks Board where
  cbOnEnterStateAfterReboot := some fun b => some (ledsCbOnEnterStateAfterReboot b)
  cbOnExitStateAfterReboot := some fun b => some (ledsCbOnExitStateAfterReboot b)
  cbOnEnterStateBeforeReboot := some ledsCbOnEnterStateBeforeReboot

/-! ## The task -/

/-- The globals of the LED modules. -/
structure State where
  ctrl : LedsCtrl
  ctrl2 : LedsCtrl2
  blinking : Blinking
  ledsState : LedsColor
  greenLedState : Bool
  board : Board
  deriving DecidableEq

/-- `leds_task_sig_e`, with what the handlers read elsewhere: the getters of `gw_cfg`. -/
inductive LedsTaskSig where
  | update
  | onEvReboot
  | onEvNrf52FwCheck
  | onEvNrf52FwUpdating
  | onEvNrf52Ready
  | onEvNrf52Failure
  | onEvNrf52Rebooted (gwCfgInitialized : Bool)
  | onEvNrf52Configured
  | onEvCfgReady (useMqtt useHttpRuuvi useHttp : Bool)
  | onEvCfgChangedRuuvi (useMqtt useHttpRuuvi useHttp : Bool)
  | onEvCfgErased
  | onEvWifiApStarted
  | onEvWifiApStopped
  | onEvWpsActivated
  | onEvWpsDeactivated
  | onEvNetworkConnected
  | onEvNetworkDisconnected
  | onEvMqtt1Connected
  | onEvMqtt1Disconnected
  | onEvHttp1DataSentSuccessfully
  | onEvHttp1DataSentFail
  | onEvHttp2DataSentSuccessfully
  | onEvHttp2DataSentFail
  | onEvHttpPollOk
  | onEvHttpPollTimeout
  | onEvRecvAdv
  | onEvRecvAdvTimeout
  | taskWatchdogFeed
  deriving DecidableEq

/-- `leds_turn_on_green` and `leds_turn_off_green`. -/
def State.setGreenLedState (on : Bool) (s : State) : State := { s with greenLedState := on }

/-- `leds_turn_on_red`. -/
def State.turnOnRed (s : State) : State := { s with board := ledsTurnOnRed s.board }

/-- `leds_turn_off_red`. -/
def State.turnOffRed (s : State) : Option State :=
  (ledsTurnOffRed s.board).map fun board => { s with board := board }

/-- `leds_transition_from_off`. -/
def ledsTransitionFromOff (color : LedsColor) (s : State) : Option State :=
  match color with
  | .off => none
  | .red => some s.turnOnRed
  | .green => some (s.setGreenLedState true)

/-- `leds_transition_from_red`. -/
def ledsTransitionFromRed (color : LedsColor) (s : State) : Option State :=
  match color with
  | .off => s.turnOffRed
  | .red => none
  | .green => s.turnOffRed.map (State.setGreenLedState true)

/-- `leds_transition_from_green`. -/
def ledsTransitionFromGreen (color : LedsColor) (s : State) : Option State :=
  match color with
  | .off => some (s.setGreenLedState false)
  | .red => some (s.setGreenLedState false).turnOnRed
  | .green => none

/-- The first half of `leds_task_handle_sig_update`: the LEDs take the colour. -/
def setColor (color : LedsColor) (s : State) : Option State :=
  if s.ledsState ≠ color then
    match s.ledsState with
    | .off => ledsTransitionFromOff color { s with ledsState := color }
    | .red => ledsTransitionFromRed color { s with ledsState := color }
    | .green => ledsTransitionFromGreen color { s with ledsState := color }
  else some s

/-- The second half: after its last colour a sequence gives way to the next one. -/
def startNextSequence (s : State) : Option State :=
  if s.blinking.isSequenceFinished then
    (s.blinking.setNewSequence (s.ctrl.getNewBlinkingSequence s.ctrl2)).map fun blinking =>
      { s with blinking := blinking }
  else some s

/-- `leds_task_handle_sig_update`. -/
def handleSigUpdate (s : State) : Option State := do
  let (color, blinking) ← s.blinking.getNext
  let s ← setColor color { s with blinking := blinking }
  startNextSequence s

/-- `leds_ctrl_handle_event` on the globals. -/
def handleCtrlEvent (event : LedsCtrlEvent) (s : State) : Option State :=
  (handleEvent ledsCallbacks event s.ctrl s.board).map fun r =>
    { s with ctrl := r.1, board := r.2 }

/-- The handlers of the events of `leds_ctrl2`: they do nothing outside `SUBSTATE`. -/
def handleCtrl2Event (event : LedsCtrl2Event) (s : State) : State :=
  if s.ctrl.isInSubstate then { s with ctrl2 := s.ctrl2.handleEvent event } else s

/-- The parameters that the configuration gives for the sub-machine. -/
def paramsOfCfg (useMqtt useHttpRuuvi useHttp : Bool) : LedsCtrlParams :=
  let flagUseHttp0 : UInt32 := if useHttpRuuvi then 1 else 0
  let flagUseHttp1 : UInt32 := if useHttp then 1 else 0
  { flagUseMqtt := useMqtt
    httpTargetsBitmask := (flagUseHttp0 <<< 0) ||| (flagUseHttp1 <<< 1) }

/-- `leds_ctrl_configure_sub_machine` on the globals. -/
def configure (useMqtt useHttpRuuvi useHttp : Bool) (s : State) : State :=
  let r := configureSubMachine (paramsOfCfg useMqtt useHttpRuuvi useHttp) s.ctrl s.ctrl2
  { s with ctrl := r.1, ctrl2 := r.2 }

/-- `leds_task_handle_sig`, with the handlers of its table. -/
def handleSig (s : State) : LedsTaskSig → Option State
  | .update => handleSigUpdate s
  | .onEvReboot => handleCtrlEvent .reboot s
  | .onEvNrf52FwCheck => handleCtrlEvent .nrf52FwCheck s
  | .onEvNrf52FwUpdating => handleCtrlEvent .nrf52FwUpdating s
  | .onEvNrf52Ready => handleCtrlEvent .nrf52Ready s
  | .onEvNrf52Failure => handleCtrlEvent .nrf52Failure s
  | .onEvNrf52Rebooted gwCfgInitialized =>
      if gwCfgInitialized then handleCtrlEvent .nrf52Rebooted s else some s
  | .onEvNrf52Configured => handleCtrlEvent .nrf52Configured s
  | .onEvCfgReady useMqtt useHttpRuuvi useHttp =>
      handleCtrlEvent .cfgReady (configure useMqtt useHttpRuuvi useHttp s)
  | .onEvCfgChangedRuuvi useMqtt useHttpRuuvi useHttp =>
      some (configure useMqtt useHttpRuuvi useHttp s)
  | .onEvCfgErased => handleCtrlEvent .cfgErased s
  | .onEvWifiApStarted => some (handleCtrl2Event .wifiApStarted s)
  | .onEvWifiApStopped => some (handleCtrl2Event .wifiApStopped s)
  | .onEvWpsActivated => some (handleCtrl2Event .wpsActivated s)
  | .onEvWpsDeactivated => some (handleCtrl2Event .wpsDeactivated s)
  | .onEvNetworkConnected => some (handleCtrl2Event .networkConnected s)
  | .onEvNetworkDisconnected => some (handleCtrl2Event .networkDisconnected s)
  | .onEvMqtt1Connected => some (handleCtrl2Event .mqtt1Connected s)
  | .onEvMqtt1Disconnected => some (handleCtrl2Event .mqtt1Disconnected s)
  | .onEvHttp1DataSentSuccessfully => some (handleCtrl2Event .http1DataSentSuccessfully s)
  | .onEvHttp1DataSentFail => some (handleCtrl2Event .http1DataSentFail s)
  | .onEvHttp2DataSentSuccessfully => some (handleCtrl2Event .http2DataSentSuccessfully s)
  | .onEvHttp2DataSentFail => some (handleCtrl2Event .http2DataSentFail s)
  | .onEvHttpPollOk => some (handleCtrl2Event .httpPollOk s)
  | .onEvHttpPollTimeout => some (handleCtrl2Event .httpPollTimeout s)
  | .onEvRecvAdv => some (handleCtrl2Event .recvAdv s)
  | .onEvRecvAdvTimeout => some (handleCtrl2Event .recvAdvTimeout s)
  | .taskWatchdogFeed => some s

/-- `leds_init`, and `leds_task` up to its loop.  The timer has been created with the period of
100 ms; `leds_ctrl_init` may have started it with another one. -/
def ledsInit (flagConfigureButtonPressed : Bool) (switchCtrlCnt : Nat) (nrf52Reset : Bool) :
    Option State :=
  (ledsCtrlInit ledsCallbacks flagConfigureButtonPressed
    { timerSigUpdate := ⟨ledsTaskUpdatePeriodMs, false⟩
      redLed := false
      switchCtrlCnt := switchCtrlCnt
      nrf52Reset := nrf52Reset }).map fun r =>
  { ctrl := r.1
    ctrl2 := .init
    blinking := .init (r.1.getNewBlinkingSequence .init)
    ledsState := .off
    greenLedState := false
    board := { r.2 with timerSigUpdate := { r.2.timerSigUpdate with active := true } } }

/-! ## The sequences -/

/-- The commands of a sequence as colours. -/
def colorsOf (sequence : Sequence) : List LedsColor :=
  sequence.map fun cmd => (colorOfCmd cmd).getD .off

/-- A sequence that can be shown: it is not empty and has no other commands. -/
def Playable (sequence : Sequence) : Prop :=
  sequence ≠ [] ∧ ∀ cmd ∈ sequence, (colorOfCmd cmd).isSome = true

instance decidablePlayable (sequence : Sequence) : Decidable (Playable sequence) :=
  decidable_of_iff
    (sequence.isEmpty = false ∧ sequence.all (fun cmd => (colorOfCmd cmd).isSome) = true)
    (and_congr List.isEmpty_eq_false_iff List.all_eq_true)

theorem LedsCtrl2.playable_getNewBlinkingSequence (c2 : LedsCtrl2) :
    Playable c2.getNewBlinkingSequence := by
  unfold LedsCtrl2.getNewBlinkingSequence
  repeat' split
  all_goals decide

/-- There is a sequence for each state but the initial one, and it can be shown. -/
theorem LedsCtrl.exists_playable {c : LedsCtrl} (h : c.ledsSmState ≠ .initial)
    (c2 : LedsCtrl2) :
    ∃ sequence, c.getNewBlinkingSequence c2 = some sequence ∧ Playable sequence := by
  obtain ⟨state, pressed, configured⟩ := c
  cases state
  case initial => exact absurd rfl h
  case substate => exact ⟨_, rfl, c2.playable_getNewBlinkingSequence⟩
  all_goals exact ⟨_, rfl, by decide⟩

theorem colorOfCmd_ne_nul {cmd : Char} (h : (colorOfCmd cmd).isSome = true) : cmd ≠ '\x00' := by
  rintro rfl
  exact absurd h (by decide)

theorem charAt_of_lt {sequence : Sequence} {i : Nat} (h : i < sequence.length) :
    charAt sequence i = some sequence[i] := by
  rw [charAt, if_neg (by omega), List.getElem?_eq_getElem h]

@[simp] theorem length_colorsOf (sequence : Sequence) :
    (colorsOf sequence).length = sequence.length := List.length_map _

/-- A step of a sequence shows the colour of its command; after the last one the index is 0
again. -/
theorem Blinking.getNext_eq {sequence : Sequence} {idx : Nat} (hplay : Playable sequence)
    (hidx : idx < sequence.length) :
    Blinking.getNext ⟨some sequence, idx⟩ =
      some ((colorsOf sequence).get ⟨idx, by simpa using hidx⟩,
        ⟨some sequence, if idx + 1 = sequence.length then 0 else idx + 1⟩) := by
  have hcolor : colorOfCmd sequence[idx] =
      some ((colorsOf sequence).get ⟨idx, by simpa using hidx⟩) := by
    obtain ⟨color, hsome⟩ := Option.isSome_iff_exists.mp (hplay.2 _ (List.getElem_mem hidx))
    simp [colorsOf, hsome]
  have hcmd := charAt_of_lt hidx
  by_cases hlast : idx + 1 = sequence.length
  · have hnul : charAt sequence sequence.length = some '\x00' := if_pos rfl
    simp [getNext, hcmd, hcolor, hnul, hlast]
  · have hnext : idx + 1 < sequence.length := by omega
    have hne : sequence[idx + 1] ≠ '\x00' :=
      colorOfCmd_ne_nul (hplay.2 _ (List.getElem_mem hnext))
    simp [getNext, hcmd, hcolor, charAt_of_lt hnext, hlast, hne]

end Leds
end RuuviGateway
