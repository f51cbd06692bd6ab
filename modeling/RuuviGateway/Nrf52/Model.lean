import Mathlib.Data.Finset.Basic
import RuuviGateway.Lib.TransitionSystem

/-!
# Configuring the nRF52 radio

`adv_post_nrf52.c`: the part of the `adv_post` task that hands the scan and
filter settings to the nRF52 over the UART, and the radio at the other end.

## The gateway side

`State` has the globals of `adv_post_nrf52.c` under their names without the
`g_adv_post_nrf52` prefix, the three one-shot timers as "armed" bits, and the
pending signals of the task as a set of bits, which is what an `os_signal` is.
Every handler returns `none` where an `assert` of the source fails.

## The radio

The UART is a pair of queues that keep the order of what they carry.  A command
that leaves `uartTx` either reaches the radio or is lost; the radio answers each
command it receives with an ACK, which crosses `uartRx` or is lost.  The radio
holds the settings of the last `SET_ALL` it received since its last reboot.  A
reboot --- its own, or the one at the end of a hardware reset --- makes
`NRF52_REBOOTED` pending at once.

## History

`epoch` counts the configuration updates and the radio's reboots.  Each command
remembers the epoch it was sent in, its ACK carries that epoch back, and
`ackCfgEpoch` is the epoch of the ACK that raised `NRF52_ACK_CFG` last.  No
handler reads them: they are there to say which `SET_ALL` an ACK answers.
-/

namespace RuuviGateway

/-- `ruuvi_gw_cfg_filter_t`. -/
structure GwCfgFilter where
  companyId : UInt16
  companyUseFiltering : Bool
  deriving DecidableEq, Repr

/-- `ruuvi_gw_cfg_scan_t`. -/
structure GwCfgScan where
  scanCodedPhy : Bool
  scan1mbitPhy : Bool
  scan2mbitPhy : Bool
  scanChannel37 : Bool
  scanChannel38 : Bool
  scanChannel39 : Bool
  scanDefault : Bool
  deriving DecidableEq, Repr

namespace AdvPostNrf52

/-- `re_ca_uart_cmd_t`, as far as ACKs use it; `zero` is the value 0 that means
"no command". -/
inductive UartCmd where
  | zero
  | setAll
  | ledCtrl
  | other (cmd : Nat)
  deriving DecidableEq, Repr

/-- The parameters of `api_send_all`: what the radio holds after a `SET_ALL`. -/
structure SetAll where
  companyId : UInt16
  useFilter : Bool
  codedPhy : Bool
  scan2mbitPhy : Bool
  scan1mbitPhy : Bool
  channel37 : Bool
  channel38 : Bool
  channel39 : Bool
  advDataMaxLen : Nat
  deriving DecidableEq, Repr

/-- `ADV_DATA_MAX_LEN`. -/
def maxAdvDataLen : Nat := 48

/-- The settings that `adv_post_nrf52_send_cmd_cfg_internal` puts in `SET_ALL`. -/
def SetAll.ofCfg (scan : GwCfgScan) (filter : GwCfgFilter) : SetAll where
  companyId := filter.companyId
  useFilter := filter.companyUseFiltering
  codedPhy := scan.scanCodedPhy
  scan2mbitPhy := scan.scan2mbitPhy
  scan1mbitPhy := scan.scan1mbitPhy
  channel37 := scan.scanChannel37
  channel38 := scan.scanChannel38
  channel39 := scan.scanChannel39
  advDataMaxLen := maxAdvDataLen

/-- What a command on the UART carries. -/
inductive UartMsg where
  | setAll (settings : SetAll)
  | ledCtrl (timeIntervalMs : UInt16)
  deriving DecidableEq, Repr

/-- The command code of a message, which its ACK repeats. -/
def UartMsg.cmd : UartMsg → UartCmd
  | .setAll _ => .setAll
  | .ledCtrl _ => .ledCtrl

/-- A message on its way to the radio, with the epoch it was sent in. -/
structure TxMsg where
  msg : UartMsg
  epoch : Nat
  deriving DecidableEq, Repr

/-- An ACK on its way to the gateway.  `state` is `ack_state.state`, 0 for
success; `epoch` is that of the command it answers. -/
structure RxAck where
  cmd : UartCmd
  state : Nat
  epoch : Nat
  deriving DecidableEq, Repr

/-- The signals of the `adv_post` task that concern the nRF52. -/
inductive Sig where
  | nrf52Rebooted
  | nrf52Configured
  | nrf52AckLedCtrl
  | nrf52AckCfg
  | nrf52AckTimeout
  | nrf52CfgUpdate
  | nrf52HwResetOff
  | nrf52CfgReqTimeout
  deriving DecidableEq, Repr

/-- `ADV_POST_NRF52_NO_ACK_MAX_CNT`. -/
def noAckMaxCnt : Nat := 10

/-- `ADV_POST_LED_CTRL_TIME_INTERVAL_INVALID`. -/
def ledCtrlTimeIntervalInvalid : UInt16 := 0xFFFF

/-- The gateway's view of the radio, the UART, and the radio itself. -/
structure State where
  scan : GwCfgScan
  filter : GwCfgFilter
  flagCfgReady : Bool
  flagNrf52Configured : Bool
  flagNrf52InHwResetState : Bool
  lastCmd : UartCmd
  isWaitingAck : Bool
  flagCfgRequired : Bool
  ackTimeoutCnt : Nat
  ledCtrlTimeIntervalMs : UInt16
  timerAckTimeout : Bool
  timerReset : Bool
  timerCfgReqTimeout : Bool
  /-- `nrf52fw_get_manual_reset_mode()`. -/
  manualResetMode : Bool
  pending : Finset Sig
  uartTx : List TxMsg
  uartRx : List RxAck
  /-- The settings of the last `SET_ALL` received since the last reboot. -/
  radio : Option SetAll
  /-- The reset line of the radio is active. -/
  hwReset : Bool
  epoch : Nat
  ackCfgEpoch : Nat

/-- What the cached configuration would put in a `SET_ALL`. -/
def State.cached (s : State) : SetAll := SetAll.ofCfg s.scan s.filter

/-! ## Commands to the radio -/

/-- `adv_post_signals_send_sig`. -/
def sendSig (sig : Sig) (s : State) : State :=
  { s with pending := insert sig s.pending }

/-- `adv_post_nrf52_set_waiting_ack`. -/
def setWaitingAck (cmd : UartCmd) (s : State) : State :=
  { s with timerAckTimeout := true, lastCmd := cmd, isWaitingAck := true }

/-- Hand a message to the UART driver. -/
def uartSend (msg : UartMsg) (s : State) : State :=
  { s with uartTx := s.uartTx ++ [⟨msg, s.epoch⟩] }

/-- `adv_post_nrf52_send_cmd_led_ctrl_internal`. -/
def sendCmdLedCtrlInternal (s : State) : Option State :=
  if s.isWaitingAck || s.ledCtrlTimeIntervalMs == ledCtrlTimeIntervalInvalid then
    none
  else
    some (uartSend (.ledCtrl s.ledCtrlTimeIntervalMs) (setWaitingAck .ledCtrl s))

/-- `adv_post_nrf52_send_cmd_cfg_internal`. -/
def sendCmdCfgInternal (s : State) : Option State :=
  if s.isWaitingAck || s.flagNrf52Configured || !s.flagCfgRequired then
    none
  else if s.manualResetMode then
    some s
  else
    some (uartSend (.setAll s.cached) (setWaitingAck .setAll s))

/-- `adv_post_nrf52_reset`.  The reset line goes active; the radio reboots when it
is released. -/
def reset (s : State) : State :=
  { s with
    hwReset := true
    flagNrf52InHwResetState := true
    ledCtrlTimeIntervalMs := ledCtrlTimeIntervalInvalid
    flagCfgRequired := false
    isWaitingAck := false
    timerReset := true }

/-- The radio restarts: it forgets its settings and asks for a configuration. -/
def radioReboot (s : State) : State :=
  { s with
    radio := none
    pending := insert .nrf52Rebooted s.pending
    epoch := s.epoch + 1 }

/-! ## The entry points -/

/-- `adv_post_nrf52_init`, with the configuration read from `gw_cfg`.  What the
radio holds at that moment is unknown. -/
def init (scan : GwCfgScan) (filter : GwCfgFilter) (manualResetMode : Bool)
    (radio : Option SetAll) : State :=
  reset
    { scan := scan
      filter := filter
      flagCfgReady := false
      flagNrf52Configured := false
      flagNrf52InHwResetState := false
      lastCmd := .zero
      isWaitingAck := false
      flagCfgRequired := false
      ackTimeoutCnt := 0
      ledCtrlTimeIntervalMs := ledCtrlTimeIntervalInvalid
      timerAckTimeout := false
      timerReset := false
      timerCfgReqTimeout := false
      manualResetMode := manualResetMode
      pending := ∅
      uartTx := []
      uartRx := []
      radio := radio
      hwReset := false
      epoch := 1
      ackCfgEpoch := 0 }

/-- `adv_post_nrf52_cfg_update_cached`. -/
def cfgUpdateCached (scan : GwCfgScan) (filter : GwCfgFilter) (s : State) : State :=
  { s with
    scan := scan
    filter := filter
    flagNrf52Configured := false
    flagNrf52InHwResetState := false
    flagCfgReady := true
    epoch := s.epoch + 1 }

/-- `adv_post_nrf52_cfg_update`. -/
def cfgUpdate (scan : GwCfgScan) (filter : GwCfgFilter) (s : State) : State :=
  sendSig .nrf52CfgUpdate (cfgUpdateCached scan filter s)

/-- `adv_post_nrf52_send_led_ctrl`. -/
def sendLedCtrl (timeIntervalMs : UInt16) (s : State) : Option State :=
  let s := { s with ledCtrlTimeIntervalMs := timeIntervalMs }
  if !s.isWaitingAck then sendCmdLedCtrlInternal s else some s

/-- `adv_post_nrf52_on_sig_nrf52_rebooted`. -/
def onSigNrf52Rebooted (s : State) : State :=
  let s :=
    { s with
      ledCtrlTimeIntervalMs := ledCtrlTimeIntervalInvalid
      flagCfgRequired := false
      isWaitingAck := false }
  let s :=
    if s.manualResetMode then s
    else if s.flagCfgReady then sendSig .nrf52CfgUpdate s
    else s
  { s with timerCfgReqTimeout := false }

/-- `adv_post_nrf52_on_sig_nrf52_cfg_update`. -/
def onSigNrf52CfgUpdate (s : State) : Option State :=
  let s := { s with flagNrf52Configured := false, flagCfgRequired := true }
  if !s.isWaitingAck then sendCmdCfgInternal s else some s

/-- `adv_post_nrf52_on_sig_nrf52_hw_reset_off`.  Releasing the reset line reboots
the radio. -/
def onSigNrf52HwResetOff (s : State) : State :=
  { radioReboot s with
    hwReset := false
    flagNrf52InHwResetState := false
    timerCfgReqTimeout := true }

/-- `adv_post_nrf52_on_sig_nrf52_cfg_req_timeout`. -/
def onSigNrf52CfgReqTimeout (s : State) : State :=
  reset s

/-- `adv_post_nrf52_on_async_ack`, with the two functions it dispatches to. -/
def onAsyncAck (ack : RxAck) (s : State) : State :=
  let s' := { s with lastCmd := .zero }
  if s.lastCmd ≠ ack.cmd then s'
  else
    match ack.cmd with
    | .ledCtrl => if ack.state = 0 then sendSig .nrf52AckLedCtrl s' else s'
    | .setAll =>
        if ack.state = 0 then sendSig .nrf52AckCfg { s' with ackCfgEpoch := ack.epoch } else s'
    | _ => s'

/-- `adv_post_nrf52_on_sync_ack_led_ctrl`. -/
def onSyncAckLedCtrl (s : State) : Option State :=
  let s :=
    { s with
      ledCtrlTimeIntervalMs := ledCtrlTimeIntervalInvalid
      ackTimeoutCnt := 0
      timerAckTimeout := false
      isWaitingAck := false }
  if s.flagCfgRequired then sendCmdCfgInternal s else some s

/-- `adv_post_nrf52_on_sync_ack_cfg`. -/
def onSyncAckCfg (s : State) : Option State :=
  let s :=
    { s with
      ackTimeoutCnt := 0
      timerAckTimeout := false
      isWaitingAck := false
      flagCfgRequired := false
      flagNrf52Configured := true }
  if s.ledCtrlTimeIntervalMs ≠ ledCtrlTimeIntervalInvalid then sendCmdLedCtrlInternal s
  else some s

/-- `adv_post_nrf52_on_sync_ack_timeout`. -/
def onSyncAckTimeout (s : State) : Option State :=
  let s := { s with isWaitingAck := false, ackTimeoutCnt := s.ackTimeoutCnt + 1 }
  if noAckMaxCnt ≤ s.ackTimeoutCnt then
    some (reset { s with ackTimeoutCnt := 0 })
  else if s.flagCfgRequired then sendCmdCfgInternal s
  else if s.ledCtrlTimeIntervalMs ≠ ledCtrlTimeIntervalInvalid then sendCmdLedCtrlInternal s
  else some s

/-- The handler of a signal in the table of `adv_post_handle_sig`. -/
def handleSig : Sig → State → Option State
  | .nrf52Rebooted, s => some (onSigNrf52Rebooted s)
  | .nrf52Configured, s => some s
  | .nrf52AckLedCtrl, s => onSyncAckLedCtrl s
  | .nrf52AckCfg, s => onSyncAckCfg s
  | .nrf52AckTimeout, s => onSyncAckTimeout s
  | .nrf52CfgUpdate, s => onSigNrf52CfgUpdate s
  | .nrf52HwResetOff, s => some (onSigNrf52HwResetOff s)
  | .nrf52CfgReqTimeout, s => some (onSigNrf52CfgReqTimeout s)

/-! ## The system -/

/-- The steps of the gateway, its timers, the UART and the radio. -/
inductive Act where
  /-- `adv_post_nrf52_cfg_update` with a new configuration. -/
  | cfgUpdate (scan : GwCfgScan) (filter : GwCfgFilter)
  /-- `adv_post_nrf52_send_led_ctrl`. -/
  | sendLedCtrl (timeIntervalMs : UInt16)
  /-- The task takes one of the pending signals. -/
  | handle (sig : Sig)
  | ackTimerFires
  | resetTimerFires
  | cfgReqTimerFires
  /-- The radio receives the next command and answers with this ACK state. -/
  | radioReceive (ackState : Nat)
  | loseCmd
  /-- `uart_rx_task` receives the next ACK. -/
  | recvAck
  | loseAck
  | radioReboot
  deriving DecidableEq, Repr

/-- What the radio does with a command. -/
def radioApply (msg : UartMsg) (s : State) : State :=
  match msg with
  | .setAll settings => { s with radio := some settings }
  | .ledCtrl _ => s

/-- The radio takes the first command of the UART and answers it. -/
def radioReceive (ackState : Nat) (s : State) : Option State :=
  match s.uartTx with
  | [] => none
  | m :: rest =>
      if s.hwReset then none
      else
        some (radioApply m.msg
          { s with
            uartTx := rest
            uartRx := s.uartRx ++ [⟨m.msg.cmd, ackState, m.epoch⟩] })

/-- One step. -/
def step (s : State) : Act → Option State
  | .cfgUpdate scan filter => some (cfgUpdate scan filter s)
  | .sendLedCtrl t => sendLedCtrl t s
  | .handle sig =>
      if sig ∈ s.pending then handleSig sig { s with pending := s.pending.erase sig } else none
  | .ackTimerFires =>
      if s.timerAckTimeout then
        some (sendSig .nrf52AckTimeout { s with timerAckTimeout := false })
      else none
  | .resetTimerFires =>
      if s.timerReset then some (sendSig .nrf52HwResetOff { s with timerReset := false })
      else none
  | .cfgReqTimerFires =>
      if s.timerCfgReqTimeout then
        some (sendSig .nrf52CfgReqTimeout { s with timerCfgReqTimeout := false })
      else none
  | .radioReceive ackState => radioReceive ackState s
  | .loseCmd =>
      match s.uartTx with
      | [] => none
      | _ :: rest => some { s with uartTx := rest }
  | .recvAck =>
      match s.uartRx with
      | [] => none
      | ack :: rest => some (onAsyncAck ack { s with uartRx := rest })
  | .loseAck =>
      match s.uartRx with
      | [] => none
      | _ :: rest => some { s with uartRx := rest }
  | .radioReboot => some (radioReboot s)

/-- The gateway and its radio, from `adv_post_nrf52_init` on. -/
def system : TransitionSystem.System State Act where
  init s := ∃ scan filter manualResetMode radio, s = init scan filter manualResetMode radio
  step := step

end AdvPostNrf52
end RuuviGateway
