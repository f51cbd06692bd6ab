import Mathlib.Algebra.GroupWithZero.Nat
import Mathlib.Data.Option.Basic
import Mathlib.Data.Vector.Basic

/-!
# What the LED is to show

`leds_ctrl` is the state machine of the gateway's start-up: after a reboot the firmware of the
nRF52 is checked and perhaps flashed, then the configuration is awaited, and from then on the
machine stays in `SUBSTATE`, where `leds_ctrl2` keeps the status of the connections.  The state
of both decides which blinking sequence comes next.

The events come from other tasks, and most of them are expected in one state only: elsewhere
an `assert` fires.  A function that may do so returns an `Option`, with `none` for the abort.

The machine does not touch the hardware.  It is given three callbacks for entering and leaving
states, here functions on the state `σ` of whoever has installed them, which may abort too.
-/

namespace RuuviGateway
namespace Leds

/-! ## Blinking sequences -/

/-- `leds_color_e`. -/
inductive LedsColor where
  | off
  | red
  | green
  deriving DecidableEq

/-- A string literal without its NUL. -/
abbrev Sequence := List Char

def ledsBlinkingAfterReboot : Sequence := "R-R-R-R-".toList
def ledsBlinkingWhileCheckingNrf52Fw : Sequence := "-".toList
def ledsBlinkingControlledByNrf52 : Sequence := "-".toList
def ledsBlinkingWhileFlashingNrf52Fw : Sequence := "R---------".toList
def ledsBlinkingNrf52Failure : Sequence := "R".toList
def ledsBlinkingNrf52Rebooted : Sequence := "-------R-R".toList
def ledsBlinkingOnCfgErasing : Sequence := "-".toList
def ledsBlinkingOnCfgErased : Sequence := "RR--RR--".toList
def ledsBlinkingModeBeforeReboot : Sequence := "-".toList
def ledsBlinkingModeWifiHotspotActive : Sequence := "RRRRRRRRRRGGGGGGGGGG".toList
def ledsBlinkingModeWifiHotspotActiveAndWps : Sequence := "RRRRRRRRGRGGGGGGGGGG".toList
def ledsBlinkingModeNetworkProblem : Sequence := "R-R-R-R-R-".toList
def ledsBlinkingModeNotConnectedToAnyTarget : Sequence := "RRRRR-----".toList
def ledsBlinkingModeNoAdvs : Sequence := "G-G-G-G-G-".toList
def ledsBlinkingModeConnectedToAllTargets : Sequence := "GGGGGGGGGG".toList
def ledsBlinkingModeConnectedToSomeTargets : Sequence := "GGGGGGGGG-".toList

/-! ## The status of the connections -/

/-- `leds_ctrl_params_t`. -/
structure LedsCtrlParams where
  flagUseMqtt : Bool
  httpTargetsBitmask : UInt32
  deriving DecidableEq

/-- `LEDS_CTRL_MAX_NUM_HTTP_CONN`. -/
abbrev ledsCtrlMaxNumHttpConn : Nat := 2

/-- `LEDS_CTRL_MAX_NUM_MQTT_CONN`. -/
abbrev ledsCtrlMaxNumMqttConn : Nat := 1

theorem neZero_maxNumHttpConn : NeZero ledsCtrlMaxNumHttpConn := ⟨by decide⟩

theorem neZero_maxNumMqttConn : NeZero ledsCtrlMaxNumMqttConn := ⟨by decide⟩

attribute [local instance] neZero_maxNumHttpConn neZero_maxNumMqttConn

/-- `leds_ctrl2_state_t`. -/
structure LedsCtrl2 where
  params : LedsCtrlParams
  flagWifiApActive : Bool
  flagWpsActive : Bool
  flagNetworkConnected : Bool
  flagHttpConnStatus : Vector Bool ledsCtrlMaxNumHttpConn
  flagMqttConnStatus : Vector Bool ledsCtrlMaxNumMqttConn
  flagHttpPollStatus : Bool
  flagRecvAdvStatus : Bool
  deriving DecidableEq

/-- `leds_ctrl2_event_e`. -/
inductive LedsCtrl2Event where
  | wifiApStarted
  | wifiApStopped
  | wpsActivated
  | wpsDeactivated
  | networkConnected
  | networkDisconnected
  | mqtt1Connected
  | mqtt1Disconnected
  | http1DataSentSuccessfully
  | http1DataSentFail
  | http2DataSentSuccessfully
  | http2DataSentFail
  | httpPollOk
  | httpPollTimeout
  | recvAdv
  | recvAdvTimeout
  deriving DecidableEq

/-- `leds_ctrl2_init`. -/
def LedsCtrl2.init : LedsCtrl2 where
  params := ⟨false, 0⟩
  flagWifiApActive := false
  flagWpsActive := false
  flagNetworkConnected := true
  flagHttpConnStatus := Vector.replicate _ true
  flagMqttConnStatus := Vector.replicate _ true
  flagHttpPollStatus := true
  flagRecvAdvStatus := true

/-- `leds_ctrl2_configure`. -/
def LedsCtrl2.configure (params : LedsCtrlParams) (s : LedsCtrl2) : LedsCtrl2 :=
  { s with params := params }

/-- `flag_http_conn_status[i] = ok`. -/
def LedsCtrl2.setHttpConnStatus (i : Fin ledsCtrlMaxNumHttpConn) (ok : Bool) (s : LedsCtrl2) :
    LedsCtrl2 :=
  { s with flagHttpConnStatus := s.flagHttpConnStatus.set i ok }

/-- `flag_mqtt_conn_status[i] = ok`. -/
def LedsCtrl2.setMqttConnStatus (i : Fin ledsCtrlMaxNumMqttConn) (ok : Bool) (s : LedsCtrl2) :
    LedsCtrl2 :=
  { s with flagMqttConnStatus := s.flagMqttConnStatus.set i ok }

/-- `flag_mqtt_conn_status[0]`. -/
def LedsCtrl2.mqttConnStatus (s : LedsCtrl2) : Bool := s.flagMqttConnStatus[0]

/-- `leds_ctrl2_handle_event`, with `leds_ctrl2_on_event`. -/
def LedsCtrl2.handleEvent (s : LedsCtrl2) : LedsCtrl2Event → LedsCtrl2
  | .wifiApStarted => { s with flagWifiApActive := true }
  | .wifiApStopped => { s with flagWifiApActive := false }
  | .wpsActivated => { s with flagWpsActive := true }
  | .wpsDeactivated => { s with flagWpsActive := false }
  | .networkConnected =>
      -- The LED is to turn green at once, not only after the next POST.
      (({ s with flagNetworkConnected := true }).setHttpConnStatus 0 true).setHttpConnStatus 1 true
  | .networkDisconnected => { s with flagNetworkConnected := false }
  | .mqtt1Connected => s.setMqttConnStatus 0 true
  | .mqtt1Disconnected => s.setMqttConnStatus 0 false
  | .http1DataSentSuccessfully => s.setHttpConnStatus 0 true
  | .http1DataSentFail => s.setHttpConnStatus 0 false
  | .http2DataSentSuccessfully => s.setHttpConnStatus 1 true
  | .http2DataSentFail => s.setHttpConnStatus 1 false
  | .httpPollOk => { s with flagHttpPollStatus := true }
  | .httpPollTimeout => { s with flagHttpPollStatus := false }
  | .recvAdv => { s with flagRecvAdvStatus := true }
  | .recvAdvTimeout => { s with flagRecvAdvStatus := false }

/-- `0 != (params.http_targets_bitmask & (1U << i))`. -/
def LedsCtrl2.isHttpTarget (s : LedsCtrl2) (i : Fin ledsCtrlMaxNumHttpConn) : Bool :=
  s.params.httpTargetsBitmask &&& (1 <<< UInt32.ofNat i) != 0

/-- `leds_ctrl2_get_num_configured_targets`. -/
def LedsCtrl2.getNumConfiguredTargets (s : LedsCtrl2) : Nat :=
  let cnt := (List.finRange ledsCtrlMaxNumHttpConn).foldl
    (fun cnt i => if s.isHttpTarget i then cnt + 1 else cnt) 0
  if s.params.flagUseMqtt then cnt + 1 else cnt

/-- The count of active targets in `leds_ctrl2_get_new_blinking_sequence`. -/
def LedsCtrl2.numActiveTargets (s : LedsCtrl2) : Nat :=
  let cnt := (List.finRange ledsCtrlMaxNumHttpConn).foldl
    (fun cnt i =>
      if s.isHttpTarget i then if s.flagHttpConnStatus[i] then cnt + 1 else cnt else cnt) 0
  if s.params.flagUseMqtt && s.mqttConnStatus then cnt + 1 else cnt

/-- `leds_ctrl2_get_new_blinking_sequence`. -/
def LedsCtrl2.getNewBlinkingSequence (s : LedsCtrl2) : Sequence :=
  if s.flagWifiApActive then
    if s.flagWpsActive then ledsBlinkingModeWifiHotspotActiveAndWps
    else ledsBlinkingModeWifiHotspotActive
  else if !s.flagNetworkConnected then ledsBlinkingModeNetworkProblem
  else if !s.flagRecvAdvStatus then ledsBlinkingModeNoAdvs
  else if s.getNumConfiguredTargets = 0 then
    if !s.flagHttpPollStatus then ledsBlinkingModeNotConnectedToAnyTarget
    else ledsBlinkingModeConnectedToAllTargets
  else if s.numActiveTargets = 0 then ledsBlinkingModeNotConnectedToAnyTarget
  else if s.getNumConfiguredTargets ≠ s.numActiveTargets then
    ledsBlinkingModeConnectedToSomeTargets
  else ledsBlinkingModeConnectedToAllTargets

/-! ## The state machine -/

/-- `leds_ctrl_event_e`. -/
inductive LedsCtrlEvent where
  | reboot
  | cfgErased
  | nrf52FwCheck
  | nrf52FwUpdating
  | nrf52Ready
  | nrf52Failure
  | nrf52Rebooted
  | nrf52Configured
  | cfgReady
  deriving DecidableEq

/-- `leds_ctrl_state_e`. -/
inductive LedsCtrlState where
  | initial
  | afterReboot
  | checkingNrf52Fw
  | flashingNrf52Fw
  | nrf52Failure
  | nrf52Rebooted
  | cfgErasing
  | cfgErased
  | waitingCfgReady
  | substate
  | beforeReboot
  deriving DecidableEq

/-- `leds_ctrl_callbacks_t`, each one a function pointer that may be `NULL`. -/
structure LedsCtrlCallbacks (σ : Type) where
  cbOnEnterStateAfterReboot : Option (σ → Option σ)
  cbOnExitStateAfterReboot : Option (σ → Option σ)
  cbOnEnterStateBeforeReboot : Option (σ → Option σ)

/-- `leds_ctrl_state_t`, without the task and the callbacks. -/
structure LedsCtrl where
  ledsSmState : LedsCtrlState
  flagConfigureButtonPressed : Bool
  flagSubmachineConfigured : Bool
  deriving DecidableEq

/-- `leds_ctrl_do_actions_step`. -/
def LedsCtrl.doActionsStep (c : LedsCtrl) : LedsCtrlState :=
  match c.ledsSmState with
  | .initial => if c.flagConfigureButtonPressed then .cfgErasing else .afterReboot
  | state => state

variable {σ : Type}

/-- `if (NULL != cb) { cb(); }`. -/
def callIfSet (cb : Option (σ → Option σ)) (env : σ) : Option σ :=
  match cb with
  | some f => f env
  | none => some env

/-- The callbacks of `leds_ctrl_transition`.  The one for the new state is called before the
one for the old state. -/
def callOnTransition (cbs : LedsCtrlCallbacks σ) (old new : LedsCtrlState) (env : σ) :
    Option σ :=
  (if new = .afterReboot then callIfSet cbs.cbOnEnterStateAfterReboot env
    else if new = .beforeReboot then callIfSet cbs.cbOnEnterStateBeforeReboot env
    else some env).bind fun env =>
  if old = .afterReboot then callIfSet cbs.cbOnExitStateAfterReboot env else some env

/-- `leds_sm_state = new`. -/
def LedsCtrl.enter (c : LedsCtrl) (new : LedsCtrlState) : LedsCtrl :=
  { c with ledsSmState := new }

/-- `leds_ctrl_transition`. -/
def transition (cbs : LedsCtrlCallbacks σ) (new : LedsCtrlState) (c : LedsCtrl) (env : σ) :
    Option (LedsCtrl × σ) :=
  (callOnTransition cbs c.ledsSmState new env).map fun env => (c.enter new, env)

/-- `leds_ctrl_do_actions`: transitions, until the machine stays where it is. -/
def doActions (cbs : LedsCtrlCallbacks σ) (c : LedsCtrl) (env : σ) : Option (LedsCtrl × σ) :=
  if c.doActionsStep = c.ledsSmState then some (c, env)
  else
    (callOnTransition cbs c.ledsSmState c.doActionsStep env).bind fun env =>
      doActions cbs (c.enter c.doActionsStep) env
termination_by (if c.ledsSmState = .initial then 1 else 0 : Nat)
decreasing_by
  obtain ⟨state, pressed, configured⟩ := c
  cases state <;> cases pressed <;> simp_all [LedsCtrl.doActionsStep, LedsCtrl.enter]

/-- `leds_ctrl_init`. -/
def ledsCtrlInit (cbs : LedsCtrlCallbacks σ) (flagConfigureButtonPressed : Bool) (env : σ) :
    Option (LedsCtrl × σ) :=
  doActions cbs ⟨.initial, flagConfigureButtonPressed, false⟩ env

/-- `leds_ctrl_handle_event_in_state_after_reboot`. -/
def handleEventInStateAfterReboot : LedsCtrlEvent → Option LedsCtrlState
  | .reboot => some .beforeReboot
  | .nrf52FwCheck => some .checkingNrf52Fw
  | .cfgErased | .nrf52FwUpdating | .nrf52Ready | .nrf52Failure | .nrf52Rebooted
  | .nrf52Configured | .cfgReady => none

/-- `leds_ctrl_handle_event_in_state_cfg_erasing`. -/
def handleEventInStateCfgErasing : LedsCtrlEvent → Option LedsCtrlState
  | .reboot => some .beforeReboot
  | .cfgErased => some .cfgErased
  | .nrf52FwCheck | .nrf52FwUpdating | .nrf52Ready | .nrf52Failure | .nrf52Rebooted
  | .nrf52Configured | .cfgReady => none

/-- `leds_ctrl_handle_event_in_state_checking_nrf52_fw`. -/
def handleEventInStateCheckingNrf52Fw : LedsCtrlEvent → Option LedsCtrlState
  | .reboot => some .beforeReboot
  | .nrf52FwUpdating => some .flashingNrf52Fw
  | .nrf52Ready => some .waitingCfgReady
  | .nrf52Failure => some .nrf52Failure
  | .cfgErased | .nrf52FwCheck | .nrf52Rebooted | .nrf52Configured | .cfgReady => none

/-- `leds_ctrl_handle_event_in_state_flashing_nrf52_fw`. -/
def handleEventInStateFlashingNrf52Fw (state : LedsCtrlState) :
    LedsCtrlEvent → Option LedsCtrlState
  | .reboot => some .beforeReboot
  | .nrf52Ready => some .waitingCfgReady
  | .nrf52Failure => some .nrf52Failure
  | .cfgReady => some state
  | .cfgErased | .nrf52FwCheck | .nrf52FwUpdating | .nrf52Rebooted | .nrf52Configured => none

/-- `leds_ctrl_handle_event_in_state_nrf52_rebooted`. -/
def handleEventInStateNrf52Rebooted (state : LedsCtrlState) :
    LedsCtrlEvent → Option LedsCtrlState
  | .nrf52Configured => some .substate
  | .cfgReady => some state
  | .reboot | .cfgErased | .nrf52FwCheck | .nrf52FwUpdating | .nrf52Ready | .nrf52Failure
  | .nrf52Rebooted => none

/-- `leds_ctrl_handle_event_in_state_waiting_cfg_ready`. -/
def handleEventInStateWaitingCfgReady : LedsCtrlEvent → Option LedsCtrlState
  | .reboot => some .beforeReboot
  | .cfgReady => some .substate
  | .cfgErased | .nrf52FwCheck | .nrf52FwUpdating | .nrf52Ready | .nrf52Failure
  | .nrf52Rebooted | .nrf52Configured => none

/-- `leds_ctrl_handle_event_in_state_substate`. -/
def handleEventInStateSubstate (state : LedsCtrlState) : LedsCtrlEvent → Option LedsCtrlState
  | .nrf52FwUpdating => some .flashingNrf52Fw
  | .nrf52Ready | .nrf52Failure | .nrf52Configured => some state
  | .reboot | .cfgErased | .nrf52FwCheck | .nrf52Rebooted | .cfgReady => none

/-- The state that `leds_ctrl_handle_event` goes to. -/
def LedsCtrl.newSmState (c : LedsCtrl) (event : LedsCtrlEvent) : Option LedsCtrlState :=
  if event = .reboot then some .beforeReboot
  else if event = .nrf52Rebooted then some .nrf52Rebooted
  else
    match c.ledsSmState with
    | .initial => some .initial
    | .afterReboot => handleEventInStateAfterReboot event
    | .checkingNrf52Fw => handleEventInStateCheckingNrf52Fw event
    | .flashingNrf52Fw => handleEventInStateFlashingNrf52Fw c.ledsSmState event
    | .nrf52Failure => some .nrf52Failure
    | .nrf52Rebooted => handleEventInStateNrf52Rebooted c.ledsSmState event
    | .cfgErasing => handleEventInStateCfgErasing event
    | .cfgErased => some .cfgErased
    | .waitingCfgReady => handleEventInStateWaitingCfgReady event
    | .substate =>
        if c.flagSubmachineConfigured then handleEventInStateSubstate c.ledsSmState event
        else none
    | .beforeReboot => some .beforeReboot

/-- `leds_ctrl_handle_event`. -/
def handleEvent (cbs : LedsCtrlCallbacks σ) (event : LedsCtrlEvent) (c : LedsCtrl) (env : σ) :
    Option (LedsCtrl × σ) :=
  (c.newSmState event).bind fun new =>
    if new ≠ c.ledsSmState then
      (transition cbs new c env).bind fun r => doActions cbs r.1 r.2
    else some (c, env)

/-- `leds_ctrl_get_new_blinking_sequence`; no sequence is known in the initial state. -/
def LedsCtrl.getNewBlinkingSequence (c : LedsCtrl) (c2 : LedsCtrl2) : Option Sequence :=
  match c.ledsSmState with
  | .initial => none
  | .afterReboot => some ledsBlinkingAfterReboot
  | .checkingNrf52Fw => some ledsBlinkingWhileCheckingNrf52Fw
  | .flashingNrf52Fw => some ledsBlinkingWhileFlashingNrf52Fw
  | .nrf52Failure => some ledsBlinkingNrf52Failure
  | .nrf52Rebooted => some ledsBlinkingNrf52Rebooted
  | .cfgErasing => some ledsBlinkingOnCfgErasing
  | .cfgErased => some ledsBlinkingOnCfgErased
  | .waitingCfgReady => some ledsBlinkingControlledByNrf52
  | .substate => some c2.getNewBlinkingSequence
  | .beforeReboot => some ledsBlinkingModeBeforeReboot

/-- `leds_ctrl_is_in_substate`. -/
def LedsCtrl.isInSubstate (c : LedsCtrl) : Bool := decide (c.ledsSmState = .substate)

/-- `leds_ctrl_configure_sub_machine`. -/
def configureSubMachine (params : LedsCtrlParams) (c : LedsCtrl) (c2 : LedsCtrl2) :
    LedsCtrl × LedsCtrl2 :=
  ({ c with flagSubmachineConfigured := true }, c2.configure params)

/-! ## What an event can do -/

variable {cbs : LedsCtrlCallbacks σ} {c d : LedsCtrl} {env env' : σ}

@[simp] theorem LedsCtrl.enter_ledsSmState (new : LedsCtrlState) :
    (c.enter new).ledsSmState = new := rfl

@[simp] theorem LedsCtrl.enter_flagSubmachineConfigured (new : LedsCtrlState) :
    (c.enter new).flagSubmachineConfigured = c.flagSubmachineConfigured := rfl

/-- Only the initial state is left without an event. -/
theorem doActions_of_ne_initial (h : c.ledsSmState ≠ .initial) (env : σ) :
    doActions cbs c env = some (c, env) := by
  have hstay : c.doActionsStep = c.ledsSmState := by
    unfold LedsCtrl.doActionsStep
    split
    · rename_i hinit
      exact absurd hinit h
    · rfl
  rw [doActions, if_pos hstay]

/-- The first state depends on the button. -/
theorem ledsCtrlInit_eq (flagConfigureButtonPressed : Bool) (env : σ) :
    ledsCtrlInit cbs flagConfigureButtonPressed env =
      if flagConfigureButtonPressed then some (⟨.cfgErasing, true, false⟩, env)
      else
        (callIfSet cbs.cbOnEnterStateAfterReboot env).map fun env =>
          (⟨.afterReboot, false, false⟩, env) := by
  rw [ledsCtrlInit, doActions]
  cases flagConfigureButtonPressed with
  | true =>
    rw [if_neg (by decide), if_pos rfl]
    exact doActions_of_ne_initial (by decide) env
  | false =>
    rw [if_neg (by decide), if_neg (by decide)]
    change (Option.bind (Option.bind _ _) _) = _
    cases callIfSet cbs.cbOnEnterStateAfterReboot env with
    | none => rfl
    | some env' => exact doActions_of_ne_initial (by decide) env'

/-- The events that a state expects, besides a reboot of the gateway or of the nRF52. -/
def LedsCtrlState.expects : LedsCtrlState → LedsCtrlEvent → Bool
  | .afterReboot, .nrf52FwCheck => true
  | .cfgErasing, .cfgErased => true
  | .checkingNrf52Fw, .nrf52FwUpdating => true
  | .checkingNrf52Fw, .nrf52Ready => true
  | .checkingNrf52Fw, .nrf52Failure => true
  | .flashingNrf52Fw, .nrf52Ready => true
  | .flashingNrf52Fw, .nrf52Failure => true
  | .flashingNrf52Fw, .cfgReady => true
  | .nrf52Rebooted, .nrf52Configured => true
  | .nrf52Rebooted, .cfgReady => true
  | .waitingCfgReady, .cfgReady => true
  | .substate, .nrf52FwUpdating => true
  | .substate, .nrf52Ready => true
  | .substate, .nrf52Failure => true
  | .substate, .nrf52Configured => true
  | .initial, _ | .nrf52Failure, _ | .cfgErased, _ | .beforeReboot, _ => true
  | _, _ => false

/-- The machine takes the event: it is a reboot, or it is expected, and in `SUBSTATE` the
sub-machine has been configured. -/
def LedsCtrl.Takes (c : LedsCtrl) (event : LedsCtrlEvent) : Prop :=
  event = .reboot ∨ event = .nrf52Rebooted ∨
    c.ledsSmState.expects event = true ∧
      (c.ledsSmState = .substate → c.flagSubmachineConfigured = true)

/-- An assertion of the machine fails where it does not take the event. -/
theorem LedsCtrl.isSome_newSmState_iff (event : LedsCtrlEvent) :
    (c.newSmState event).isSome = true ↔ c.Takes event := by
  obtain ⟨state, pressed, configured⟩ := c
  cases state <;> cases event <;> cases configured <;>
    simp [LedsCtrl.newSmState, LedsCtrl.Takes, LedsCtrlState.expects,
      handleEventInStateAfterReboot, handleEventInStateCfgErasing,
      handleEventInStateCheckingNrf52Fw, handleEventInStateFlashingNrf52Fw,
      handleEventInStateNrf52Rebooted, handleEventInStateWaitingCfgReady,
      handleEventInStateSubstate]

/-- Where a transition can lead: neither back to the initial state nor to the one after a
reboot, and to `BEFORE_REBOOT` by a reboot only. -/
theorem LedsCtrl.newSmState_eq_some {event : LedsCtrlEvent} {new : LedsCtrlState}
    (h : c.newSmState event = some new) (hne : new ≠ c.ledsSmState) :
    new ≠ .initial ∧ new ≠ .afterReboot ∧ (new = .beforeReboot ↔ event = .reboot) := by
  obtain ⟨state, pressed, configured⟩ := c
  cases configured <;> cases state <;> cases event <;>
    simp [LedsCtrl.newSmState, handleEventInStateAfterReboot,
      handleEventInStateCfgErasing, handleEventInStateCheckingNrf52Fw,
      handleEventInStateFlashingNrf52Fw, handleEventInStateNrf52Rebooted,
      handleEventInStateWaitingCfgReady, handleEventInStateSubstate] at h hne ⊢ <;>
    simp [← h] at hne ⊢

/-- An event that is taken leaves the machine alone, or makes one transition. -/
theorem handleEvent_eq_bind (event : LedsCtrlEvent) :
    handleEvent cbs event c env =
      (c.newSmState event).bind fun new =>
        if new = c.ledsSmState then some (c, env) else transition cbs new c env := by
  unfold handleEvent
  refine Option.bind_congr fun new hnew => ?_
  by_cases hne : new = c.ledsSmState
  · rw [if_neg (not_not.mpr hne), if_pos hne]
  · rw [if_pos hne, if_neg hne, transition]
    cases callOnTransition cbs c.ledsSmState new env with
    | none => rfl
    | some env' => exact doActions_of_ne_initial (LedsCtrl.newSmState_eq_some hnew hne).1 env'

end Leds
end RuuviGateway
