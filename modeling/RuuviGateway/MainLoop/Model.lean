import Mathlib.Data.Fintype.Basic
import RuuviGateway.GwCfg.Writers
import RuuviGateway.Relaying.Model

/-!
# The main task and the services

`main_loop.c` starts and stops what depends on the configuration: the MQTT client, the timer
that checks for a remote configuration, and the checks for firmware updates.  The
configuration is changed by the HTTP server, for `POST /ruuvi.json` and for a remote
configuration, and the services are restarted later, when the main task handles
`RESTART_SERVICES`.

A signal is sent, taken by the main task when it waits, and handled; a handler is taken apart
where it looks at something that other tasks change.  Of the configuration `MqttCfg.params`,
`RuuviCfg.rest` and the network sections are opaque, and so are the comparisons of
`gw_cfg_cmp.c`.  `SET_DEFAULT_CONFIG` is not part of the system, nor are the signals that
touch nothing of this state.
-/

namespace RuuviGateway
namespace MainLoop

open Relaying (Kind)

variable {μ ρ ν : Type}

/-! ## The configuration -/

/-- `auto_update_cycle_type_e`. -/
inductive AutoUpdateCycle where
  | regular
  | betaTester
  | manual
  deriving DecidableEq, Repr

/-- `ruuvi_gw_cfg_mqtt_t`. -/
structure MqttCfg (μ : Type) where
  useMqtt : Bool
  params : μ
  deriving DecidableEq, Repr

/-- `gw_cfg_ruuvi_t`. -/
structure RuuviCfg (μ ρ : Type) where
  mqtt : MqttCfg μ
  useRemoteCfg : Bool
  refreshIntervalMinutes : Nat
  autoUpdateCycle : AutoUpdateCycle
  rest : ρ
  deriving DecidableEq, Repr

/-- `g_gateway_config` and `g_gw_cfg_is_empty`. -/
structure Cfg (μ ρ ν : Type) where
  ruuvi : RuuviCfg μ ρ
  /-- `eth_cfg` and `wifi_cfg`. -/
  network : ν
  isEmpty : Bool
  deriving DecidableEq, Repr

/-- The remote configuration is to be checked for periodically. -/
def RuuviCfg.checksRemoteCfg (r : RuuviCfg μ ρ) : Bool :=
  r.useRemoteCfg && r.refreshIntervalMinutes != 0

/-! ## The state -/

/-- The signals of the main task that touch this state. -/
inductive Sig where
  | checkForFwUpdates
  | scheduleNextCheckForFwUpdates
  | scheduleRetryCheckForFwUpdates
  | activateCfgMode
  | deactivateCfgMode
  | restartServices
  | checkForRemoteCfg
  | relayingModeChanged
  deriving DecidableEq, Repr

instance : Fintype Sig where
  elems := {.checkForFwUpdates, .scheduleNextCheckForFwUpdates, .scheduleRetryCheckForFwUpdates,
    .activateCfgMode, .deactivateCfgMode, .restartServices, .checkForRemoteCfg,
    .relayingModeChanged}
  complete sig := by cases sig <;> decide

/-- Where the main task stands in a handler. -/
inductive MainPc where
  | idle
  /-- `RELAYING_MODE_CHANGED`: `use_mqtt` has been read. -/
  | modeRead (useMqtt : Bool)
  | modeStart
  | modeStop
  /-- `RESTART_SERVICES`: `mqtt_app_stop` is done. -/
  | restartStopped
  | restartRead (useMqtt : Bool)
  | restartStart
  /-- `main_task_configure_periodic_remote_cfg_check` is next. -/
  | restartRemote
  | restartFw
  /-- `DEACTIVATE_CFG_MODE`: configuration mode is over, the services are to be restarted. -/
  | deactivated
  deriving DecidableEq, Repr

/-- Where the HTTP server stands in `http_server_gw_cfg_download_and_update`. -/
inductive RemotePhase where
  | idle
  /-- Relaying via HTTP has been suspended. -/
  | downloading
  /-- `gw_cfg_update` is done, and this is the `update_status`. -/
  | stored (ruuviModified networkModified : Bool)
  /-- Relaying via HTTP is to be resumed. -/
  | signalled
  deriving DecidableEq, Repr

/-- A configuration that differs from the last one has been stored. -/
def RemotePhase.modified : RemotePhase → Bool
  | .stored ruuvi network => ruuvi || network
  | _ => false

/-- The state. -/
structure State (μ ρ ν : Type) where
  cfg : Cfg μ ρ ν
  sent : Sig → Bool
  /-- The signals that the main task has taken and not handled yet. -/
  taken : Sig → Bool
  pc : MainPc
  /-- The MQTT section that the running client was started with. -/
  mqttClient : Option (MqttCfg μ)
  mqttStartFailed : Bool
  /-- `g_p_timer_sig_check_for_remote_cfg`. -/
  timerCheckForRemoteCfg : Bool
  /-- `g_p_timer_sig_check_for_fw_updates`. -/
  timerCheckForFwUpdates : Bool
  /-- The HTTP server has been asked to check for firmware updates, and is doing so. -/
  fwCheckRequested : Bool
  fwCheckRunning : Bool
  cfgMode : Bool
  /-- `g_p_timer_sig_deactivate_cfg_mode`. -/
  timerDeactivateCfgMode : Bool
  cntRelayingViaHttpSuspended : Nat
  cntRelayingViaMqttSuspended : Nat
  /-- The suspend and resume calls of other tasks that have changed a counter and will send
  `RELAYING_MODE_CHANGED`. -/
  notifies : Nat
  /-- The suspend calls of other tasks, by kind, that have not been resumed. -/
  held : Kind → Nat
  remote : RemotePhase
  /-- `POST /ruuvi.json` has stored the settings and will start the timer. -/
  posting : Bool
  rebootScheduled : Bool

/-- `os_signal_send`. -/
def State.send (sig : Sig) (s : State μ ρ ν) : State μ ρ ν :=
  { s with sent := Function.update s.sent sig true }

/-- The signal is pending: sent, or taken and not handled. -/
def State.due (s : State μ ρ ν) (sig : Sig) : Bool := s.sent sig || s.taken sig

/-- `gw_status_is_relaying_via_mqtt_enabled`. -/
def State.isRelayingViaMqttEnabled (s : State μ ρ ν) : Bool := s.cntRelayingViaMqttSuspended == 0

/-- The critical section of the suspend functions, and whether they notify. -/
def suspendRelaying (kind : Kind) (s : State μ ρ ν) : State μ ρ ν × Bool :=
  ({ s with
      cntRelayingViaHttpSuspended := s.cntRelayingViaHttpSuspended + 1
      cntRelayingViaMqttSuspended :=
        if kind.mqtt then s.cntRelayingViaMqttSuspended + 1
        else s.cntRelayingViaMqttSuspended },
    s.cntRelayingViaHttpSuspended == 0 || kind.mqtt && s.cntRelayingViaMqttSuspended == 0)

/-- The critical section of the resume functions, and whether they notify. -/
def resumeRelaying (kind : Kind) (s : State μ ρ ν) : State μ ρ ν × Bool :=
  ({ s with
      cntRelayingViaHttpSuspended := s.cntRelayingViaHttpSuspended - 1
      cntRelayingViaMqttSuspended :=
        if kind.mqtt then s.cntRelayingViaMqttSuspended - 1
        else s.cntRelayingViaMqttSuspended },
    s.cntRelayingViaHttpSuspended == 1 || kind.mqtt && s.cntRelayingViaMqttSuspended == 1)

/-- The rest of such a function, called by the main task itself. -/
def notifyNow (r : State μ ρ ν × Bool) : State μ ρ ν :=
  if r.2 then r.1.send .relayingModeChanged else r.1

/-- The rest, called by another task: the signal follows later. -/
def notifyLater (r : State μ ρ ν × Bool) : State μ ρ ν :=
  if r.2 then { r.1 with notifies := r.1.notifies + 1 } else r.1

/-! ## The handlers -/

/-- `mqtt_app_start_with_gw_cfg`, which may fail. -/
def mqttAppStartWithGwCfg (ok : Bool) (s : State μ ρ ν) : State μ ρ ν :=
  match s.mqttClient with
  | some _ => s
  | none =>
      if ok then { s with mqttClient := some s.cfg.ruuvi.mqtt }
      else { s with mqttStartFailed := true }

/-- `main_task_configure_periodic_remote_cfg_check`. -/
def configurePeriodicRemoteCfgCheck (s : State μ ρ ν) : State μ ρ ν :=
  { s with timerCheckForRemoteCfg := s.cfg.ruuvi.checksRemoteCfg }

/-- `main_task_handle_sig_activate_cfg_mode`. -/
def handleActivateCfgMode (s : State μ ρ ν) : State μ ρ ν :=
  if s.cfgMode then s
  else
    notifyNow (suspendRelaying .relaying
      { s with cfgMode := true, timerCheckForRemoteCfg := false, timerCheckForFwUpdates := false })

/-- `main_task_handle_sig_deactivate_cfg_mode`, up to the signal `RESTART_SERVICES`. -/
def handleDeactivateCfgMode (s : State μ ρ ν) : State μ ρ ν :=
  let s := { s with timerDeactivateCfgMode := false }
  if !s.cfgMode then s
  else if s.cfg.isEmpty then s
  else { s with cfgMode := false, pc := .deactivated }

/-- `main_task_handle_sig`: the first part of a handler.  `allowed` is the result of
`check_if_checking_for_fw_updates_allowed`. -/
def handleSig (sig : Sig) (allowed : Bool) (s : State μ ρ ν) : State μ ρ ν :=
  match sig with
  | .checkForFwUpdates =>
      if allowed then { s with fwCheckRequested := true }
      else s.send .scheduleRetryCheckForFwUpdates
  | .scheduleNextCheckForFwUpdates => { s with timerCheckForFwUpdates := true }
  | .scheduleRetryCheckForFwUpdates => { s with timerCheckForFwUpdates := true }
  | .activateCfgMode => handleActivateCfgMode s
  | .deactivateCfgMode => handleDeactivateCfgMode s
  | .restartServices => { s with mqttClient := none, pc := .restartStopped }
  -- the HTTP server is asked for the remote configuration
  | .checkForRemoteCfg => s
  | .relayingModeChanged => { s with pc := .modeRead s.cfg.ruuvi.mqtt.useMqtt }

/-- The next part of the handler that the main task is in. -/
def continueHandler (ok : Bool) (s : State μ ρ ν) : Option (State μ ρ ν) :=
  match s.pc with
  | .idle => none
  | .modeRead useMqtt =>
      some { s with
        pc := if useMqtt && s.isRelayingViaMqttEnabled then
            (if s.mqttClient.isSome then .idle else .modeStart)
          else .modeStop }
  | .modeStart => some { mqttAppStartWithGwCfg ok s with pc := .idle }
  | .modeStop => some { s with mqttClient := none, pc := .idle }
  | .restartStopped => some { s with pc := .restartRead s.cfg.ruuvi.mqtt.useMqtt }
  | .restartRead useMqtt =>
      some { s with
        pc := if useMqtt && s.isRelayingViaMqttEnabled then .restartStart else .restartRemote }
  | .restartStart => some { mqttAppStartWithGwCfg ok s with pc := .restartRemote }
  | .restartRemote => some { configurePeriodicRemoteCfgCheck s with pc := .restartFw }
  | .restartFw =>
      some { s with
        timerCheckForFwUpdates := decide (s.cfg.ruuvi.autoUpdateCycle ≠ .manual)
        pc := .idle }
  | .deactivated =>
      some { notifyNow (resumeRelaying .relaying (s.send .restartServices)) with pc := .idle }

/-! ## The system -/

/-- The steps. -/
inductive Act (μ ρ ν : Type) where
  /-- Another task sends a signal. -/
  | send (sig : Sig)
  | take (sig : Sig)
  | handle (sig : Sig) (allowed : Bool)
  /-- The main task goes on in a handler; `ok` is how `mqtt_app_start` ends. -/
  | main (ok : Bool)
  | timerDeactivateCfgModeFires
  /-- Another task starts or stops the timer. -/
  | setTimerDeactivateCfgMode (active : Bool)
  | timerCheckForRemoteCfgFires
  | timerCheckForFwUpdatesFires
  /-- The HTTP server checks for firmware updates. -/
  | fwCheckBegin
  | fwCheckDone (success : Bool)
  /-- Other tasks suspend and resume relaying. -/
  | suspend (kind : Kind)
  | resume (kind : Kind)
  | notify
  /-- `http_server_cb_on_post_ruuvi` stores new Ruuvi settings, and starts the timer. -/
  | postRuuvi (new : RuuviCfg μ ρ)
  | postTimer
  /-- It stores new network settings. -/
  | postNetwork (new : ν)
  /-- `http_server_gw_cfg_download_and_update`. -/
  | remoteBegin
  | remoteFail
  | remoteStore (ruuvi : RuuviCfg μ ρ) (network : ν)
  | remoteSignal
  | remoteEnd
  /-- The scheduled reboot. -/
  | reboot (ok : Bool)

/-- The signals that other tasks send: the configure button and `GET /ruuvi.json`, the
network subsystem, the `adv_post` task. -/
def sentByOthers : Sig → Bool
  | .activateCfgMode => true
  | .deactivateCfgMode => true
  | .restartServices => true
  | .checkForRemoteCfg => true
  | _ => false

variable (cmpRuuvi : RuuviCfg μ ρ → RuuviCfg μ ρ → Bool) (cmpNetwork : ν → ν → Bool)

/-- `gw_cfg_set`, for the Ruuvi section. -/
def storeRuuvi (new : RuuviCfg μ ρ) (c : Cfg μ ρ ν) : Cfg μ ρ ν :=
  { c with ruuvi := GwCfg.setSection cmpRuuvi (some new) c.ruuvi, isEmpty := false }

/-- `gw_cfg_set`, for the network sections. -/
def storeNetwork (new : ν) (c : Cfg μ ρ ν) : Cfg μ ρ ν :=
  { c with network := GwCfg.setSection cmpNetwork (some new) c.network, isEmpty := false }

/-- The state when the main task enters its loop: it starts the services. -/
def init (cfg : Cfg μ ρ ν) (ok : Bool) : State μ ρ ν where
  cfg := cfg
  sent := fun _ => false
  taken := fun _ => false
  pc := .idle
  mqttClient := if cfg.ruuvi.mqtt.useMqtt && ok then some cfg.ruuvi.mqtt else none
  mqttStartFailed := cfg.ruuvi.mqtt.useMqtt && !ok
  timerCheckForRemoteCfg := cfg.ruuvi.checksRemoteCfg
  timerCheckForFwUpdates := decide (cfg.ruuvi.autoUpdateCycle ≠ .manual)
  fwCheckRequested := false
  fwCheckRunning := false
  cfgMode := false
  timerDeactivateCfgMode := false
  cntRelayingViaHttpSuspended := 0
  cntRelayingViaMqttSuspended := 0
  notifies := 0
  held := fun _ => 0
  remote := .idle
  posting := false
  rebootScheduled := false

/-- One step. -/
def step (s : State μ ρ ν) : Act μ ρ ν → Option (State μ ρ ν)
  | .send sig => if sentByOthers sig then some (s.send sig) else none
  | .take sig =>
      if s.pc = .idle ∧ s.sent sig = true then
        some { s with
          sent := Function.update s.sent sig false
          taken := Function.update s.taken sig true }
      else none
  | .handle sig allowed =>
      if s.pc = .idle ∧ s.taken sig = true then
        some (handleSig sig allowed { s with taken := Function.update s.taken sig false })
      else none
  | .main ok => continueHandler ok s
  | .timerDeactivateCfgModeFires =>
      if s.timerDeactivateCfgMode then
        some ({ s with timerDeactivateCfgMode := false }.send .deactivateCfgMode)
      else none
  | .setTimerDeactivateCfgMode active => some { s with timerDeactivateCfgMode := active }
  | .timerCheckForRemoteCfgFires =>
      if s.timerCheckForRemoteCfg then some (s.send .checkForRemoteCfg) else none
  | .timerCheckForFwUpdatesFires =>
      if s.timerCheckForFwUpdates then
        some ({ s with timerCheckForFwUpdates := false }.send .checkForFwUpdates)
      else none
  | .fwCheckBegin =>
      if s.fwCheckRequested ∧ s.fwCheckRunning = false then
        some { s with fwCheckRequested := false, fwCheckRunning := true }
      else none
  | .fwCheckDone success =>
      if s.fwCheckRunning then
        some ({ s with fwCheckRunning := false }.send
          (if success then .scheduleNextCheckForFwUpdates else .scheduleRetryCheckForFwUpdates))
      else none
  | .suspend kind =>
      some { notifyLater (suspendRelaying kind s) with
        held := Function.update s.held kind (s.held kind + 1) }
  | .resume kind =>
      if 0 < s.held kind then
        some { notifyLater (resumeRelaying kind s) with
          held := Function.update s.held kind (s.held kind - 1) }
      else none
  | .notify =>
      if 0 < s.notifies then
        some ({ s with notifies := s.notifies - 1 }.send .relayingModeChanged)
      else none
  | .postRuuvi new => some { s with cfg := storeRuuvi cmpRuuvi new s.cfg, posting := true }
  | .postTimer =>
      if s.posting then some { s with posting := false, timerDeactivateCfgMode := true } else none
  | .postNetwork new => some { s with cfg := storeNetwork cmpNetwork new s.cfg }
  | .remoteBegin =>
      if s.remote = .idle then
        some { notifyLater (suspendRelaying .httpRelaying s) with remote := .downloading }
      else none
  | .remoteFail => if s.remote = .downloading then some { s with remote := .signalled } else none
  | .remoteStore ruuvi network =>
      if s.remote = .downloading then
        some { s with
          cfg := storeNetwork cmpNetwork network (storeRuuvi cmpRuuvi ruuvi s.cfg)
          remote := .stored (!cmpRuuvi s.cfg.ruuvi ruuvi) (!cmpNetwork s.cfg.network network) }
      else none
  | .remoteSignal =>
      match s.remote with
      | .stored _ true => some { s with remote := .signalled, rebootScheduled := true }
      | .stored true false => some ({ s with remote := .signalled }.send .restartServices)
      | .stored false false => some { s with remote := .signalled }
      | _ => none
  | .remoteEnd =>
      if s.remote = .signalled then
        some { notifyLater (resumeRelaying .httpRelaying s) with remote := .idle }
      else none
  | .reboot ok => if s.rebootScheduled then some (init s.cfg ok) else none

/-- The system. -/
def system : TransitionSystem.System (State μ ρ ν) (Act μ ρ ν) where
  init s := ∃ cfg ok, s = init cfg ok
  step := step cmpRuuvi cmpNetwork

/-! ## The services follow the configuration -/

/-- No signal of the main task is pending and it is in no handler, the timer for the
deactivation of configuration mode is not running, relaying is not suspended and nobody is
about to say so, configuration mode is not active, and MQTT starts have succeeded. -/
structure Settled (s : State μ ρ ν) : Prop where
  pc : s.pc = .idle
  due : ∀ sig, s.due sig = false
  timer : s.timerDeactivateCfgMode = false
  cntHttp : s.cntRelayingViaHttpSuspended = 0
  cntMqtt : s.cntRelayingViaMqttSuspended = 0
  notifies : s.notifies = 0
  cfgMode : s.cfgMode = false
  started : s.mqttStartFailed = false

instance (s : State μ ρ ν) : Decidable (Settled s) :=
  decidable_of_iff (s.pc = .idle ∧ (∀ sig, s.due sig = false) ∧
      s.timerDeactivateCfgMode = false ∧ s.cntRelayingViaHttpSuspended = 0 ∧
      s.cntRelayingViaMqttSuspended = 0 ∧ s.notifies = 0 ∧ s.cfgMode = false ∧
      s.mqttStartFailed = false)
    ⟨fun ⟨a, b, c, d, e, f, g, h⟩ => ⟨a, b, c, d, e, f, g, h⟩,
      fun ⟨a, b, c, d, e, f, g, h⟩ => ⟨a, b, c, d, e, f, g, h⟩⟩

/-- **The services follow the configuration.** -/
structure ServicesFollow (s : State μ ρ ν) : Prop where
  mqtt : s.mqttClient = if s.cfg.ruuvi.mqtt.useMqtt then some s.cfg.ruuvi.mqtt else none
  remote : s.timerCheckForRemoteCfg = s.cfg.ruuvi.checksRemoteCfg
  fw : s.cfg.ruuvi.autoUpdateCycle ≠ .manual →
    (s.timerCheckForFwUpdates || s.fwCheckRequested || s.fwCheckRunning) = true

instance [DecidableEq μ] (s : State μ ρ ν) : Decidable (ServicesFollow s) :=
  decidable_of_iff
    (s.mqttClient = (if s.cfg.ruuvi.mqtt.useMqtt then some s.cfg.ruuvi.mqtt else none) ∧
      s.timerCheckForRemoteCfg = s.cfg.ruuvi.checksRemoteCfg ∧
      (s.cfg.ruuvi.autoUpdateCycle ≠ .manual →
        (s.timerCheckForFwUpdates || s.fwCheckRequested || s.fwCheckRunning) = true))
    ⟨fun ⟨a, b, c⟩ => ⟨a, b, c⟩, fun ⟨a, b, c⟩ => ⟨a, b, c⟩⟩

/-- The services or the gateway will be restarted: `RESTART_SERVICES` is pending,
configuration mode is active or has just ended, a remote configuration has been stored, or a
reboot is scheduled. -/
def State.restartToCome (s : State μ ρ ν) : Bool :=
  s.due .restartServices || s.cfgMode || decide (s.pc = .deactivated) || s.rebootScheduled ||
    s.remote.modified

/-- The condition on a step: Ruuvi settings are posted while a restart is to come, above all
while configuration mode is active, or they change nothing. -/
def PostedBeforeRestart (s : State μ ρ ν) : Act μ ρ ν → Prop
  | .postRuuvi new => s.restartToCome = true ∨ cmpRuuvi s.cfg.ruuvi new = true
  | _ => True

instance (s : State μ ρ ν) : (a : Act μ ρ ν) → Decidable (PostedBeforeRestart cmpRuuvi s a)
  | .postRuuvi _ => inferInstanceAs (Decidable (_ ∨ _))
  | .send _ | .take _ | .handle .. | .main _ | .timerDeactivateCfgModeFires
  | .setTimerDeactivateCfgMode _ | .timerCheckForRemoteCfgFires | .timerCheckForFwUpdatesFires
  | .fwCheckBegin | .fwCheckDone _ | .suspend _ | .resume _ | .notify | .postTimer
  | .postNetwork _ | .remoteBegin | .remoteFail | .remoteStore .. | .remoteSignal | .remoteEnd
  | .reboot _ => inferInstanceAs (Decidable True)

end MainLoop
end RuuviGateway
