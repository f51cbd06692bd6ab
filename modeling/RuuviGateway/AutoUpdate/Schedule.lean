import RuuviGateway.AutoUpdate.Window
import RuuviGateway.MainLoop.Services

/-!
# The schedule of the checks for firmware updates

The main task is that of `MainLoop`, here with a clock: its timer for the checks fires at a given
time, and a check that is allowed has the HTTP server download the latest release.  After a
success the next check is 12 hours later, and after a check that is refused or a download that
fails 40 minutes later.

How long the tasks take for a check is not known.  As long as it is less than ten minutes, every
hour in which checks are allowed has one, unless there was a success not long before
(`InTime.lean`).
-/

namespace RuuviGateway
namespace AutoUpdate

open MainLoop (Act MainPc RuuviCfg Sig State)
open GwCfgJson (AutoUpdate)
open TransitionSystem

variable {μ ρ ν : Type}

/-- `RUUVI_CHECK_FOR_FW_UPDATES_DELAY_AFTER_REBOOT_SECONDS`. -/
def delayAfterReboot : Nat := 2 * 60 * 60

/-- `RUUVI_CHECK_FOR_FW_UPDATES_DELAY_AFTER_SUCCESS_SECONDS`. -/
def delayAfterSuccess : Nat := 12 * 60 * 60

/-- `RUUVI_CHECK_FOR_FW_UPDATES_DELAY_BEFORE_RETRY_SECONDS`. -/
def delayBeforeRetry : Nat := 40 * 60

/-! ## The state -/

/-- What the main task finds when it handles `CHECK_FOR_FW_UPDATES`, and when. -/
structure Seen where
  time : Nat
  isConnected : Bool
  isSynchronized : Bool
  autoUpdate : AutoUpdate
  unixTime : Int

/-- The check is allowed. -/
def Seen.allowed (k : Seen) : Bool :=
  checkIfCheckingForFwUpdatesAllowed k.isConnected k.isSynchronized k.autoUpdate k.unixTime

/-- The gateway and its clocks; times are in seconds. -/
structure Timed (μ ρ ν : Type) where
  main : State μ ρ ν
  now : Nat
  /-- `wifi_manager_is_connected_to_wifi_or_ethernet`. -/
  isConnected : Bool
  /-- `time_is_synchronized`. -/
  isSynchronized : Bool
  /-- `os_time_get`. -/
  unixTime : Int
  /-- When `g_p_timer_sig_check_for_fw_updates` fires, if it is active, and when it has fired. -/
  deadline : Nat
  firedAt : Nat
  bootedAt : Nat
  /-- The last times at which the services were restarted, a check was handled, the HTTP server
  was asked, and a download succeeded. -/
  restarted : Option Nat
  seen : Option Seen
  asked : Option Seen
  succeeded : Option Nat
  /-- The network, the settings, and the clock but for the time that passes, are as they were
  then. -/
  steadySince : Nat

variable (times : ρ → AutoUpdate)

/-- `ruuvi_cfg.auto_update`. -/
def autoUpdateOf (r : RuuviCfg μ ρ) : AutoUpdate :=
  { times r.rest with
    autoUpdateCycle :=
      match r.autoUpdateCycle with
      | .regular => .regular
      | .betaTester => .betaTester
      | .manual => .manual }

/-- What a check would find. -/
def Timed.look (x : Timed μ ρ ν) : Seen where
  time := x.now
  isConnected := x.isConnected
  isSynchronized := x.isSynchronized
  autoUpdate := autoUpdateOf times x.main.cfg.ruuvi
  unixTime := x.unixTime

/-! ## The steps -/

/-- Time goes on, something changes around the gateway, or one of its tasks goes on. -/
inductive TimedAct (μ ρ ν : Type) where
  | tick
  | network (isConnected : Bool)
  | clock (isSynchronized : Bool) (unixTime : Int)
  | main (a : Act μ ρ ν)

/-- A check is allowed if what it finds allows it. -/
def Timed.found (x : Timed μ ρ ν) : Act μ ρ ν → Act μ ρ ν
  | .handle sig _ => .handle sig (x.look times).allowed
  | a => a

/-- The timer that fires is due. -/
def Timed.isDue (x : Timed μ ρ ν) : Act μ ρ ν → Bool
  | .timerCheckForFwUpdatesFires => decide (x.deadline ≤ x.now)
  | _ => true

/-- The tasks are in the state `s`. -/
def Timed.withMain (x : Timed μ ρ ν) (s : State μ ρ ν) : Timed μ ρ ν :=
  { x with
    main := s
    steadySince :=
      if autoUpdateOf times s.cfg.ruuvi = autoUpdateOf times x.main.cfg.ruuvi then x.steadySince
      else x.now }

/-- The times after a step of the tasks that leads to `s`. -/
def Timed.after (x : Timed μ ρ ν) (s : State μ ρ ν) (a : Act μ ρ ν) : Timed μ ρ ν :=
  let y := x.withMain times s
  match a with
  | .handle .checkForFwUpdates _ =>
      { y with
        seen := some (x.look times)
        asked := if (x.look times).allowed then some (x.look times) else x.asked }
  | .handle .scheduleNextCheckForFwUpdates _ => { y with deadline := x.now + delayAfterSuccess }
  | .handle .scheduleRetryCheckForFwUpdates _ => { y with deadline := x.now + delayBeforeRetry }
  | .main _ =>
      -- `main_task_handle_sig_restart_services` restarts the timer
      if x.main.pc = .restartFw then
        { y with deadline := x.now + delayBeforeRetry, restarted := some x.now }
      else y
  | .timerCheckForFwUpdatesFires => { y with firedAt := x.now }
  | .fwCheckDone true => { y with succeeded := some x.now }
  | .reboot _ => { y with deadline := x.now + delayAfterReboot, bootedAt := x.now }
  | _ => y

variable (cmpRuuvi : RuuviCfg μ ρ → RuuviCfg μ ρ → Bool) (cmpNetwork : ν → ν → Bool)

/-- One step. -/
def timedStep (x : Timed μ ρ ν) : TimedAct μ ρ ν → Option (Timed μ ρ ν)
  | .tick => some { x with now := x.now + 1, unixTime := x.unixTime + 1 }
  | .network isConnected => some { x with isConnected := isConnected, steadySince := x.now }
  | .clock isSynchronized unixTime =>
      some { x with
        isSynchronized := isSynchronized, unixTime := unixTime, steadySince := x.now }
  | .main a =>
      if x.isDue a then
        (MainLoop.step cmpRuuvi cmpNetwork x.main (x.found times a)).map fun s => x.after times s a
      else none

/-- The gateway from its first start on. -/
def timedSystem : System (Timed μ ρ ν) (TimedAct μ ρ ν) where
  init x := (∃ cfg ok, x.main = MainLoop.init cfg ok) ∧
    x.deadline = x.now + delayAfterReboot ∧ x.bootedAt = x.now ∧ x.firedAt ≤ x.now ∧
    x.restarted = none ∧ x.seen = none ∧ x.asked = none ∧ x.succeeded = none ∧
    x.steadySince = x.now
  step := timedStep times cmpRuuvi cmpNetwork

/-- A check is under way: from the signal of the timer until the timer is restarted. -/
def isUnderway (s : State μ ρ ν) : Bool :=
  s.fwCheckRequested || s.fwCheckRunning || s.due .checkForFwUpdates ||
    s.due .scheduleNextCheckForFwUpdates || s.due .scheduleRetryCheckForFwUpdates

/-- The condition on a step: the timer fires in time, and a check takes less than `lag` seconds. -/
def Prompt (lag : Nat) (x : Timed μ ρ ν) : TimedAct μ ρ ν → Prop
  | .tick => (x.main.timerCheckForFwUpdates = true → x.now < x.deadline) ∧
      (isUnderway x.main = true → x.now < x.firedAt + lag)
  | _ => True

instance (lag : Nat) (x : Timed μ ρ ν) : (l : TimedAct μ ρ ν) → Decidable (Prompt lag x l)
  | .tick => inferInstanceAs (Decidable (_ ∧ _))
  | .network _ | .clock .. | .main _ => inferInstanceAs (Decidable True)

/-- Of the steps of the tasks: Ruuvi settings are posted while a restart is to come. -/
def Posted (x : Timed μ ρ ν) : TimedAct μ ρ ν → Prop
  | .main a => MainLoop.PostedBeforeRestart cmpRuuvi x.main a
  | _ => True

instance (x : Timed μ ρ ν) : (l : TimedAct μ ρ ν) → Decidable (Posted cmpRuuvi x l)
  | .main _ => inferInstanceAs (Decidable (MainLoop.PostedBeforeRestart ..))
  | .tick | .network _ | .clock .. => inferInstanceAs (Decidable True)

end AutoUpdate
end RuuviGateway
