import RuuviGateway.GwCfgJson.Config
import RuuviGateway.Lib.SignalBits
import RuuviGateway.Lib.TransitionSystem

/-!
# The time task

`time_task.c` starts and stops the SNTP client with the network and configures it from the
settings.  Its signals are bits, so that they are handled in the order of their numbers:
`CONNECTED` before `DISCONNECTED`, and the settings last.

The statements of its handlers are steps of their own, because answers of time servers are handled
by another task in between.  The SNTP client is part of a library; here it is what the task sets in
it.
-/

namespace RuuviGateway
namespace TimeTask

open CString SignalBits TransitionSystem

/-- The two interfaces. -/
inductive Iface where
  | wifi
  | eth
  deriving DecidableEq

/-- The other one. -/
def Iface.other : Iface → Iface
  | .wifi => .eth
  | .eth => .wifi

/-- `time_task_sig_e`, but for the signal that only tests send. -/
inductive Sig where
  | connected (i : Iface)
  | disconnected (i : Iface)
  | gwCfgChangedRuuvi
  deriving DecidableEq

/-- The signals by their numbers. -/
def Sig.order : List Sig :=
  [.connected .wifi, .disconnected .wifi, .connected .eth, .disconnected .eth, .gwCfgChangedRuuvi]

theorem Sig.mem_order (sig : Sig) : sig ∈ order := by
  rcases sig with (_ | _) | (_ | _) | _ <;> decide

/-- `TIME_TASK_NUM_OF_TIME_SERVERS`, and `SNTP_MAX_SERVERS`. -/
def numOfTimeServers : Nat := 4

/-- The settings of a time server: `ruuvi_gw_cfg_ntp_server_addr_str_t`. -/
abbrev ServerAddr := Buf 32

/-- What has been set in the SNTP client. -/
structure Sntp where
  running : Bool
  /-- `sntp_servermode_dhcp`. -/
  servermodeDhcp : Bool
  servers : Nat → Option (List Char)
  /-- `SNTP_SYNC_MODE_SMOOTH` and not `SNTP_SYNC_MODE_IMMED`. -/
  smooth : Bool

/-- The settings that the task has saved. -/
structure Saved where
  ntpUse : Bool
  ntpUseDhcp : Bool
  /-- `g_arr_of_time_servers`, without the empty strings behind. -/
  timeServers : List (List Char)
  deriving DecidableEq

/-- A statement of a handler. -/
inductive Stmt where
  /-- `g_time_is_synchronized = false`. -/
  | clearSynchronized
  | sntpInit
  | sntpStop
  /-- `time_task_configure_ntp_sources` and what follows it in `time_task_on_cfg_changed`. -/
  | reconfigure
  | sendSigReconnectNetwork
  deriving DecidableEq

/-- The task and what is around it. -/
structure State where
  /-- `ruuvi_cfg.ntp`. -/
  cfg : GwCfgJson.Ntp
  saved : Saved
  sntp : Sntp
  /-- `g_time_is_synchronized`. -/
  isSynchronized : Bool
  bits : Bits Sig
  todo : List Stmt
  /-- The interface has reported a connection and no disconnection since. -/
  up : Iface → Bool
  /-- The main task was asked to reconnect, and no disconnection has been reported since. -/
  reconnecting : Bool

/-! ## The functions -/

/-- The array that `time_task_add_ntp_server` fills: servers without a name are left out. -/
def addNtpServers (ntp : GwCfgJson.Ntp) : List (List Char) :=
  [ntp.ntpServer1.chars, ntp.ntpServer2.chars, ntp.ntpServer3.chars, ntp.ntpServer4.chars].filter
    fun s => !s.isEmpty

/-- `time_task_save_settings`. -/
def saveSettings (ntp : GwCfgJson.Ntp) : Saved where
  ntpUse := ntp.ntpUse
  ntpUseDhcp := ntp.ntpUseDhcp
  timeServers := addNtpServers ntp

/-- What `time_task_configure_ntp_sources` sets in the client. -/
def configureNtpSources (saved : Saved) (sntp : Sntp) : Sntp :=
  { sntp with
    servers := fun i =>
      if saved.ntpUse && !saved.ntpUseDhcp && decide (i < numOfTimeServers) then
        saved.timeServers[i]?
      else none
    servermodeDhcp := if saved.ntpUse then saved.ntpUseDhcp else sntp.servermodeDhcp }

/-- `time_task_sntp_start`. -/
def sntpStart : List Stmt := [.clearSynchronized, .sntpInit]

/-- `time_task_sntp_stop`. -/
def sntpStop : List Stmt := [.clearSynchronized, .sntpStop]

/-- `time_task_handle_sig`: the statements that follow. -/
def handleSig (saved : Saved) : Sig → List Stmt
  | .connected _ => if saved.ntpUse then sntpStart else []
  | .disconnected _ => sntpStop
  | .gwCfgChangedRuuvi => sntpStop ++ [.reconfigure]

/-- A statement. -/
def State.exec (s : State) : Stmt → State
  | .clearSynchronized => { s with isSynchronized := false }
  | .sntpInit => { s with sntp := { s.sntp with running := true } }
  | .sntpStop => { s with sntp := { s.sntp with running := false } }
  | .reconfigure =>
      let saved := saveSettings s.cfg
      { s with
        saved := saved
        sntp := configureNtpSources saved s.sntp
        todo :=
          (if s.saved.ntpUse ≠ saved.ntpUse ∨ s.saved.ntpUseDhcp ≠ saved.ntpUseDhcp then
            [.sendSigReconnectNetwork]
          else if saved.ntpUse then sntpStart
          else []) ++ s.todo }
  | .sendSigReconnectNetwork => { s with reconnecting := true }

/-- `g_time_min_valid`: the start of the year 2026. -/
def timeMinValid : Int := 1767225600

/-- `time_task_cb_notification_on_sync`. -/
def cbNotificationOnSync (s : State) (sec : Int) : State :=
  if sec < timeMinValid then { s with isSynchronized := false }
  else { s with isSynchronized := true, sntp := { s.sntp with smooth := true } }

/-- `time_is_synchronized`. -/
def timeIsSynchronized (s : State) (now : Int) : Bool :=
  s.isSynchronized && !decide (now < timeMinValid)

/-- `time_task_init`. -/
def init (cfg : GwCfgJson.Ntp) (dhcpDefault : Bool) : State where
  cfg := cfg
  saved := saveSettings cfg
  sntp := configureNtpSources (saveSettings cfg) ⟨false, dhcpDefault, fun _ => none, false⟩
  isSynchronized := false
  bits := .none
  todo := []
  up _ := false
  reconnecting := false

/-! ## Runs -/

/-- What can happen. -/
inductive Label where
  /-- `EVENT_MGR_EV_WIFI_CONNECTED` or `EVENT_MGR_EV_ETH_CONNECTED`. -/
  | connected (i : Iface)
  | disconnected (i : Iface)
  /-- The settings change, and `EVENT_MGR_EV_GW_CFG_CHANGED_RUUVI` is sent. -/
  | gwCfgChangedRuuvi (cfg : GwCfgJson.Ntp)
  /-- A server answers. -/
  | answer (sec : Int)
  /-- DHCP names the servers. -/
  | dhcp (servers : Nat → Option (List Char))
  /-- The task takes its signals, handles the next one, or executes a statement. -/
  | wait
  | next
  | stmt

/-- One step. -/
def step (s : State) : Label → Option State
  | .connected i =>
      some { s with up := Function.update s.up i true, bits := s.bits.raise (.connected i) }
  | .disconnected i =>
      some { s with
        up := Function.update s.up i false
        bits := s.bits.raise (.disconnected i)
        reconnecting := false }
  | .gwCfgChangedRuuvi cfg => some { s with cfg := cfg, bits := s.bits.raise .gwCfgChangedRuuvi }
  | .answer sec => if s.sntp.running then some (cbNotificationOnSync s sec) else none
  | .dhcp servers =>
      if s.sntp.servermodeDhcp then some { s with sntp := { s.sntp with servers := servers } }
      else none
  | .wait =>
      if s.todo = [] then (s.bits.take Sig.order).map fun b => { s with bits := b } else none
  | .next =>
      if s.todo = [] then
        (s.bits.next Sig.order).map fun (sig, b) =>
          { s with bits := b, todo := handleSig s.saved sig }
      else none
  | .stmt =>
      match s.todo with
      | [] => none
      | stmt :: todo => some (State.exec { s with todo := todo } stmt)

/-- The time task from its start on. -/
def timeSystem : System State Label where
  init s := ∃ cfg dhcpDefault, s = init cfg dhcpDefault
  step := step

end TimeTask
end RuuviGateway
