import RuuviGateway.MainLoop.Services

/-!
# Configuration mode

`ACTIVATE_CFG_MODE` sets the bit, stops the timers of the checks for a remote configuration and
for firmware updates, and suspends relaying.  `DEACTIVATE_CFG_MODE` clears the bit, has the
services restarted and resumes relaying.

The suspension is exact: configuration mode contributes one to each counter as long as the bit
is set (`cntRelaying_of_reachable`).  The checks are not: the timers are stopped once, and what
starts a timer or a check again does not look at the bit (`check_ends_in_cfgMode`).  As long as
nothing does so in configuration mode, they are paused (`checksPaused_of_keepsPaused`).

The steps are those of the main task, with its handlers of `NETWORK_CONNECTED` and
`SET_DEFAULT_CONFIG`.
-/

namespace RuuviGateway
namespace MainLoop

open TransitionSystem
open Relaying (Kind)

variable {μ ρ ν : Type} {s t : State μ ρ ν}

/-! ## The system -/

/-- The main task, what a handler of it remembers, and a record of the checks. -/
structure Watch (μ ρ ν : Type) where
  main : State μ ρ ν
  /-- `g_flag_initial_request_for_remote_cfg_performed`. -/
  flagInitialRequestForRemoteCfgPerformed : Bool
  /-- A signal that was handled in configuration mode has started a check. -/
  checkStarted : Bool

/-- What can happen. -/
inductive WatchAct (μ ρ ν : Type) where
  | main (a : Act μ ρ ν)
  /-- `NETWORK_CONNECTED` is handled. -/
  | networkConnected (isApActive : Bool)
  /-- `SET_DEFAULT_CONFIG` is handled: Ethernet is connected before the gateway has been
  configured. -/
  | setDefaultConfig (ruuvi : RuuviCfg μ ρ) (network : ν)

/-- `main_task_handle_sig_network_connected`. -/
def handleNetworkConnected (isApActive : Bool) (w : Watch μ ρ ν) : Watch μ ρ ν :=
  if w.main.cfg.ruuvi.useRemoteCfg && !w.flagInitialRequestForRemoteCfgPerformed &&
      !isApActive then
    { w with
      main := w.main.send .checkForRemoteCfg
      flagInitialRequestForRemoteCfgPerformed := true }
  else w

variable (cmpRuuvi : RuuviCfg μ ρ → RuuviCfg μ ρ → Bool) (cmpNetwork : ν → ν → Bool)

/-- `main_task_handle_sig_set_default_config`. -/
def handleSetDefaultConfig (ruuvi : RuuviCfg μ ρ) (network : ν) (s : State μ ρ ν) :
    State μ ρ ν :=
  { s with
    cfg := storeNetwork cmpNetwork network (storeRuuvi cmpRuuvi ruuvi s.cfg) }.send
      .deactivateCfgMode

/-- The handler asks the HTTP server to check for a remote configuration or for firmware
updates. -/
def Act.startsCheck : Act μ ρ ν → Bool
  | .handle .checkForFwUpdates allowed => allowed
  | .handle .checkForRemoteCfg _ => true
  | _ => false

def Act.isReboot : Act μ ρ ν → Bool
  | .reboot _ => true
  | _ => false

/-- One step. -/
def watchStep (w : Watch μ ρ ν) : WatchAct μ ρ ν → Option (Watch μ ρ ν)
  | .main a =>
      (step cmpRuuvi cmpNetwork w.main a).map fun s =>
        { main := s
          flagInitialRequestForRemoteCfgPerformed :=
            w.flagInitialRequestForRemoteCfgPerformed && !a.isReboot
          checkStarted := w.checkStarted || w.main.cfgMode && a.startsCheck }
  | .networkConnected isApActive =>
      if w.main.pc = .idle then some (handleNetworkConnected isApActive w) else none
  | .setDefaultConfig ruuvi network =>
      if w.main.pc = .idle then
        some { w with main := handleSetDefaultConfig cmpRuuvi cmpNetwork ruuvi network w.main }
      else none

/-- The system. -/
def watchSystem : System (Watch μ ρ ν) (WatchAct μ ρ ν) where
  init w := ∃ cfg ok, w = ⟨init cfg ok, false, false⟩
  step := watchStep cmpRuuvi cmpNetwork

variable {cmpRuuvi cmpNetwork} {w u : Watch μ ρ ν}

theorem handleNetworkConnected_main (isApActive : Bool) (w : Watch μ ρ ν) :
    (handleNetworkConnected isApActive w).main = w.main ∨
      (handleNetworkConnected isApActive w).main = w.main.send .checkForRemoteCfg := by
  unfold handleNetworkConnected
  split
  · exact Or.inr rfl
  · exact Or.inl rfl

theorem handleNetworkConnected_checkStarted (isApActive : Bool) (w : Watch μ ρ ν) :
    (handleNetworkConnected isApActive w).checkStarted = w.checkStarted := by
  unfold handleNetworkConnected
  split
  · rfl
  · rfl

/-! ## What a step does to the bit and to the timers -/

/-- The step starts one of the two timers. -/
def startsTimer (s : State μ ρ ν) : Act μ ρ ν → Bool
  | .handle .scheduleNextCheckForFwUpdates _ => true
  | .handle .scheduleRetryCheckForFwUpdates _ => true
  | .main _ =>
      match s.pc with
      | .restartRemote => s.cfg.ruuvi.checksRemoteCfg
      | .restartFw => decide (s.cfg.ruuvi.autoUpdateCycle ≠ .manual)
      | _ => false
  | _ => false

/-- The bit and the timers around a step. -/
inductive ModeMove (s : State μ ρ ν) (a : Act μ ρ ν) (t : State μ ρ ν) : Prop where
  | same (quiet : startsTimer s a = false) (cfgMode : t.cfgMode = s.cfgMode)
      (resumes : t.pc.resumes = true → s.pc.resumes = true)
      (remote : t.timerCheckForRemoteCfg = true → s.timerCheckForRemoteCfg = true)
      (fw : t.timerCheckForFwUpdates = true → s.timerCheckForFwUpdates = true)
  | activate (quiet : startsTimer s a = false) (resumes : t.pc.resumes = false)
      (remote : t.timerCheckForRemoteCfg = false) (fw : t.timerCheckForFwUpdates = false)
  | clear (quiet : startsTimer s a = false) (cfgMode : t.cfgMode = false)
  | start (starts : startsTimer s a = true) (cfgMode : t.cfgMode = s.cfgMode)
      (resumes : t.pc.resumes = false)
      (timer : t.timerCheckForRemoteCfg = true ∨ t.timerCheckForFwUpdates = true)

theorem modeMove_handleSig (sig : Sig) (allowed : Bool) (hpc : s.pc = .idle) :
    ModeMove s (.handle sig allowed) (handleSig sig allowed (s.untake sig)) := by
  have hidle : s.pc.resumes = false := by rw [hpc]; rfl
  cases sig with
  | checkForFwUpdates =>
    simp only [handleSig]
    split
    · exact .same rfl rfl id id id
    · exact .same rfl rfl id id id
  | scheduleNextCheckForFwUpdates => exact .start rfl rfl hidle (Or.inr rfl)
  | scheduleRetryCheckForFwUpdates => exact .start rfl rfl hidle (Or.inr rfl)
  | activateCfgMode =>
    simp only [handleSig, handleActivateCfgMode]
    split
    · exact .same rfl rfl id id id
    · rw [notifyNow_eq]
      exact .activate rfl hidle rfl rfl
  | deactivateCfgMode =>
    simp only [handleSig, handleDeactivateCfgMode]
    split
    · exact .same rfl rfl id id id
    · split
      · exact .same rfl rfl id id id
      · exact .clear rfl rfl
  | restartServices => exact .same rfl rfl (fun h => absurd h Bool.false_ne_true) id id
  | checkForRemoteCfg => exact .same rfl rfl id id id
  | relayingModeChanged => exact .same rfl rfl (fun h => absurd h Bool.false_ne_true) id id

/-- The main task goes on in a handler other than the end of `RESTART_SERVICES`. -/
theorem ModeMove.main {ok : Bool} (hpc : s.pc ≠ .restartRemote ∧ s.pc ≠ .restartFw)
    (hcfg : t.cfgMode = s.cfgMode) (hresumes : t.pc.resumes = false)
    (hremote : t.timerCheckForRemoteCfg = s.timerCheckForRemoteCfg)
    (hfw : t.timerCheckForFwUpdates = s.timerCheckForFwUpdates) : ModeMove s (.main ok) t := by
  refine .same ?_ hcfg (fun h => absurd (hresumes.symm.trans h) Bool.false_ne_true)
    (fun h => hremote.symm.trans h) fun h => hfw.symm.trans h
  simp only [startsTimer]
  split
  · rename_i h
    exact absurd h hpc.1
  · rename_i h
    exact absurd h hpc.2
  · rfl

theorem modeMove_continueHandler {ok : Bool} (hstep : continueHandler ok s = some t) :
    ModeMove s (.main ok) t := by
  unfold continueHandler at hstep
  split at hstep
  next => exact absurd hstep (by simp)
  next hpc =>
    refine Option.some.inj hstep ▸ .main (by simp [hpc]) rfl ?_ rfl rfl
    split
    · split
      · rfl
      · rfl
    · rfl
  next hpc =>
    obtain ⟨client, failed, hstart, -⟩ := mqttAppStartWithGwCfg_spec ok s
    rw [hstart] at hstep
    exact Option.some.inj hstep ▸ .main (by simp [hpc]) rfl rfl rfl rfl
  next hpc => exact Option.some.inj hstep ▸ .main (by simp [hpc]) rfl rfl rfl rfl
  next hpc => exact Option.some.inj hstep ▸ .main (by simp [hpc]) rfl rfl rfl rfl
  next hpc =>
    refine Option.some.inj hstep ▸ .main (by simp [hpc]) rfl ?_ rfl rfl
    split
    · rfl
    · rfl
  next hpc =>
    obtain ⟨client, failed, hstart, -⟩ := mqttAppStartWithGwCfg_spec ok s
    rw [hstart] at hstep
    exact Option.some.inj hstep ▸ .main (by simp [hpc]) rfl rfl rfl rfl
  next hpc =>
    rw [← Option.some.inj hstep]
    cases hchecks : s.cfg.ruuvi.checksRemoteCfg with
    | true => exact .start (by simp [startsTimer, hpc, hchecks]) rfl rfl (Or.inl hchecks)
    | false =>
      refine .same (by simp [startsTimer, hpc, hchecks]) rfl
        (fun h => absurd h Bool.false_ne_true) (fun h => ?_) id
      exact absurd (hchecks.symm.trans h) Bool.false_ne_true
  next hpc =>
    rw [← Option.some.inj hstep]
    by_cases hcycle : s.cfg.ruuvi.autoUpdateCycle = .manual
    · refine .same (by simp [startsTimer, hpc, hcycle]) rfl
        (fun h => absurd h Bool.false_ne_true) id fun h => ?_
      exact absurd hcycle (of_decide_eq_true h)
    · exact .start (by simp [startsTimer, hpc, hcycle]) rfl rfl
        (Or.inr (decide_eq_true hcycle))
  next hpc =>
    rw [notifyNow_eq] at hstep
    exact Option.some.inj hstep ▸ .main (by simp [hpc]) rfl rfl rfl rfl

/-- **One step changes the bit or starts a timer**, or neither. -/
theorem step_modeMove {a : Act μ ρ ν} (hstep : step cmpRuuvi cmpNetwork s a = some t) :
    ModeMove s a t := by
  cases a with
  | main ok => exact modeMove_continueHandler hstep
  | handle sig allowed =>
    obtain ⟨hcan, rfl⟩ := Option.ite_some_none_eq_some.mp hstep
    exact modeMove_handleSig sig allowed hcan.1
  | suspend kind =>
    simp only [step, notifyLater_eq] at hstep
    exact Option.some.inj hstep ▸ .same rfl rfl id id id
  | resume kind | remoteBegin | remoteEnd =>
    simp only [step, notifyLater_eq] at hstep
    obtain ⟨-, rfl⟩ := Option.ite_some_none_eq_some.mp hstep
    exact .same rfl rfl id id id
  | timerCheckForFwUpdatesFires =>
    obtain ⟨-, rfl⟩ := Option.ite_some_none_eq_some.mp hstep
    exact .same rfl rfl id id fun h => absurd h Bool.false_ne_true
  | reboot ok =>
    obtain ⟨-, rfl⟩ := Option.ite_some_none_eq_some.mp hstep
    exact .clear rfl rfl
  | remoteSignal =>
    simp only [step] at hstep
    split at hstep
    · exact Option.some.inj hstep ▸ .same rfl rfl id id id
    · exact Option.some.inj hstep ▸ .same rfl rfl id id id
    · exact Option.some.inj hstep ▸ .same rfl rfl id id id
    · exact absurd hstep (by simp)
  | setTimerDeactivateCfgMode active | postRuuvi new | postNetwork new =>
    exact Option.some.inj hstep ▸ .same rfl rfl id id id
  | send _ | take _ | timerDeactivateCfgModeFires | timerCheckForRemoteCfgFires
  | fwCheckBegin | fwCheckDone _ | notify | postTimer | remoteFail | remoteStore _ _ =>
    obtain ⟨-, rfl⟩ := Option.ite_some_none_eq_some.mp hstep
    exact .same rfl rfl id id id

/-! ## The suspension -/

/-- The bit is cleared before the handler of `DEACTIVATE_CFG_MODE` resumes relaying. -/
def ClearedFirst (s : State μ ρ ν) : Prop := s.pc.resumes = true → s.cfgMode = false

theorem ClearedFirst.step {a : Act μ ρ ν} (h : ClearedFirst s)
    (hstep : step cmpRuuvi cmpNetwork s a = some t) : ClearedFirst t := by
  intro hresumes
  cases step_modeMove hstep with
  | same quiet cfgMode resumes remote fw => rw [cfgMode, h (resumes hresumes)]
  | activate quiet resumes remote fw =>
    exact absurd (resumes.symm.trans hresumes) Bool.false_ne_true
  | clear quiet cfgMode => exact cfgMode
  | start starts cfgMode resumes timer =>
    exact absurd (resumes.symm.trans hresumes) Bool.false_ne_true

theorem counted_watchStep {a : WatchAct μ ρ ν} (h : Counted w.main ∧ ClearedFirst w.main)
    (hstep : watchStep cmpRuuvi cmpNetwork w a = some u) :
    Counted u.main ∧ ClearedFirst u.main := by
  obtain ⟨hcounted, hcleared⟩ := h
  cases a with
  | main a =>
    obtain ⟨s, hs, rfl⟩ := Option.map_eq_some_iff.mp hstep
    exact ⟨hcounted.step hs, hcleared.step hs⟩
  | networkConnected isApActive =>
    obtain ⟨-, rfl⟩ := Option.ite_some_none_eq_some.mp hstep
    rcases handleNetworkConnected_main isApActive w with hmain | hmain
    · rw [hmain]
      exact ⟨hcounted, hcleared⟩
    · rw [hmain]
      exact ⟨⟨hcounted.http, hcounted.mqtt⟩, hcleared⟩
  | setDefaultConfig ruuvi network =>
    obtain ⟨-, rfl⟩ := Option.ite_some_none_eq_some.mp hstep
    exact ⟨⟨hcounted.http, hcounted.mqtt⟩, hcleared⟩

/-- **Configuration mode suspends relaying once**, and as long as the bit is set; while the
handler of `DEACTIVATE_CFG_MODE` has cleared the bit and not resumed relaying yet, the
suspension is still there. -/
theorem cntRelaying_of_reachable (h : (watchSystem cmpRuuvi cmpNetwork).Reachable w) :
    (w.main.pc ≠ .deactivated →
      w.main.cntRelayingViaHttpSuspended = w.main.otherSuspensions .relaying +
          w.main.otherSuspensions .httpRelaying + w.main.cfgMode.toNat ∧
        w.main.cntRelayingViaMqttSuspended =
          w.main.otherSuspensions .relaying + w.main.cfgMode.toNat) ∧
    (w.main.pc = .deactivated → w.main.cfgMode = false ∧
      w.main.cntRelayingViaHttpSuspended = w.main.otherSuspensions .relaying +
          w.main.otherSuspensions .httpRelaying + 1 ∧
        w.main.cntRelayingViaMqttSuspended = w.main.otherSuspensions .relaying + 1) := by
  have hinv : Counted w.main ∧ ClearedFirst w.main := by
    refine h.invariant (P := fun w => Counted w.main ∧ ClearedFirst w.main) ?_
      fun _ _ _ _ hw _ hstep => counted_watchStep hw hstep
    rintro _ ⟨cfg, ok, rfl⟩
    exact ⟨counted_init cfg ok, fun _ => rfl⟩
  obtain ⟨⟨hhttp, hmqtt⟩, hcleared⟩ := hinv
  simp only [State.suspensions, State.cfgModeSuspensions] at hhttp hmqtt
  constructor
  · intro hpc
    have hresumes : w.main.pc.resumes = false := by
      cases hw : w.main.pc with
      | deactivated => exact absurd hw hpc
      | _ => rfl
    rw [hresumes, Bool.toNat_false] at hhttp hmqtt
    exact ⟨by omega, by omega⟩
  · intro hpc
    have hresumes : w.main.pc.resumes = true := by rw [hpc]; rfl
    have hcfg := hcleared hresumes
    rw [hresumes, hcfg, Bool.toNat_true, Bool.toNat_false] at hhttp hmqtt
    exact ⟨hcfg, by omega, by omega⟩

/-! ## The checks -/

/-- **The checks are paused in configuration mode**: the timers are not running, and no signal
has started a check. -/
structure ChecksPaused (w : Watch μ ρ ν) : Prop where
  timers : w.main.cfgMode = true →
    w.main.timerCheckForRemoteCfg = false ∧ w.main.timerCheckForFwUpdates = false
  checks : w.checkStarted = false

/-- **The condition**: no step in configuration mode starts a timer or a check. -/
def KeepsPaused (w : Watch μ ρ ν) : WatchAct μ ρ ν → Prop
  | .main a => w.main.cfgMode = true → startsTimer w.main a = false ∧ a.startsCheck = false
  | _ => True

instance decidableKeepsPaused (w : Watch μ ρ ν) :
    (a : WatchAct μ ρ ν) → Decidable (KeepsPaused w a)
  | .main _ => inferInstanceAs (Decidable (_ → _))
  | .networkConnected _ | .setDefaultConfig .. => inferInstanceAs (Decidable True)

/-- A step of the main task leaves the timers off exactly if it starts none. -/
theorem timers_step_iff {a : Act μ ρ ν}
    (h : s.cfgMode = true → s.timerCheckForRemoteCfg = false ∧ s.timerCheckForFwUpdates = false)
    (hstep : step cmpRuuvi cmpNetwork s a = some t) :
    (t.cfgMode = true → t.timerCheckForRemoteCfg = false ∧ t.timerCheckForFwUpdates = false) ↔
      (s.cfgMode = true → startsTimer s a = false) := by
  cases step_modeMove hstep with
  | same quiet cfgMode resumes remote fw =>
    refine iff_of_true (fun hon => ?_) fun _ => quiet
    obtain ⟨hremote, hfw⟩ := h (cfgMode.symm.trans hon)
    exact ⟨Bool.eq_false_iff.mpr fun ht => by simp [remote ht] at hremote,
      Bool.eq_false_iff.mpr fun ht => by simp [fw ht] at hfw⟩
  | activate quiet resumes remote fw => exact iff_of_true (fun _ => ⟨remote, fw⟩) fun _ => quiet
  | clear quiet cfgMode =>
    exact iff_of_true (fun hon => absurd (cfgMode.symm.trans hon) Bool.false_ne_true)
      fun _ => quiet
  | start starts cfgMode resumes timer =>
    constructor
    · intro hoff hon
      obtain ⟨hremote, hfw⟩ := hoff (cfgMode.trans hon)
      rcases timer with ht | ht
      · exact absurd (hremote.symm.trans ht) Bool.false_ne_true
      · exact absurd (hfw.symm.trans ht) Bool.false_ne_true
    · intro hquiet hon
      have hno := hquiet (cfgMode.symm.trans hon)
      exact absurd (hno.symm.trans starts) Bool.false_ne_true

/-- The network handlers neither touch the timers nor start a check. -/
theorem ChecksPaused.networkConnected (h : ChecksPaused w) (isApActive : Bool) :
    ChecksPaused (handleNetworkConnected isApActive w) where
  timers := by
    rcases handleNetworkConnected_main isApActive w with hmain | hmain
    · rw [hmain]
      exact h.timers
    · rw [hmain]
      exact h.timers
  checks := (handleNetworkConnected_checkStarted isApActive w).trans h.checks

/-- **One step leaves the checks paused exactly if it meets the condition.** -/
theorem ChecksPaused.step_iff {a : WatchAct μ ρ ν} (h : ChecksPaused w)
    (hstep : watchStep cmpRuuvi cmpNetwork w a = some u) : ChecksPaused u ↔ KeepsPaused w a := by
  cases a with
  | main a =>
    obtain ⟨s, hs, rfl⟩ := Option.map_eq_some_iff.mp hstep
    have htimers := timers_step_iff h.timers hs
    constructor
    · intro hu hon
      have hchecks : (w.checkStarted || w.main.cfgMode && a.startsCheck) = false := hu.checks
      rw [h.checks, hon, Bool.false_or, Bool.true_and] at hchecks
      exact ⟨htimers.mp hu.timers hon, hchecks⟩
    · intro hok
      refine ⟨htimers.mpr fun hon => (hok hon).1, ?_⟩
      show (w.checkStarted || w.main.cfgMode && a.startsCheck) = false
      rw [h.checks, Bool.false_or]
      cases hon : w.main.cfgMode with
      | false => rfl
      | true => exact (hok hon).2
  | networkConnected isApActive =>
    obtain ⟨-, rfl⟩ := Option.ite_some_none_eq_some.mp hstep
    exact iff_of_true (h.networkConnected isApActive) trivial
  | setDefaultConfig ruuvi network =>
    obtain ⟨-, rfl⟩ := Option.ite_some_none_eq_some.mp hstep
    exact iff_of_true ⟨h.timers, h.checks⟩ trivial

/-- **While nothing starts a timer or a check in configuration mode, the checks are paused**;
and the first step that does so ends the pause. -/
theorem checksPaused_of_keepsPaused
    (h : (watchSystem cmpRuuvi cmpNetwork).ReachableVia KeepsPaused w) :
    ChecksPaused w ∧ ∀ a u, (watchSystem cmpRuuvi cmpNetwork).step w a = some u →
      (ChecksPaused u ↔ KeepsPaused w a) := by
  have hpaused : ChecksPaused w := by
    refine h.invariant (P := ChecksPaused) ?_
      fun _ _ _ _ hw hok hstep => (hw.step_iff hstep).mpr hok
    rintro _ ⟨cfg, ok, rfl⟩
    exact ⟨fun hon => absurd hon Bool.false_ne_true, rfl⟩
  exact ⟨hpaused, fun _ _ hstep => hpaused.step_iff hstep⟩

/-! ## Examples of runs -/

section examples

/-- The system with the comparisons that compare everything. -/
def sampleWatch : System (Watch Nat Unit Nat) (WatchAct Nat Unit Nat) :=
  watchSystem (fun a b => decide (a = b)) fun a b => decide (a = b)

def sampleWatchInit : Watch Nat Unit Nat := ⟨sampleInit, false, false⟩

/-- Configuration mode is activated, and a download suspends relaying via HTTP. -/
def activateRun : List (Act Nat Unit Nat) :=
  .send .activateCfgMode :: handleRun .activateCfgMode 0 ++ [.suspend .httpRelaying]

theorem cntRelaying_of_activateRun :
    ∃ w : Watch Nat Unit Nat, w.main.cfgMode = true ∧ w.main.otherSuspensions .httpRelaying = 1 ∧
      w.main.cntRelayingViaHttpSuspended = 2 ∧ w.main.cntRelayingViaMqttSuspended = 1 := by
  obtain ⟨w, hw, hp⟩ := System.exists_reachable_of_run (S := sampleWatch) (s := sampleWatchInit)
    ⟨_, _, rfl⟩ (activateRun.map .main)
    (fun w => decide (w.main.cfgMode = true ∧ w.main.otherSuspensions .httpRelaying = 1 ∧
      w.main.otherSuspensions .relaying = 0 ∧ w.main.pc = .idle)) (by decide)
  obtain ⟨hon, hhttp, hrelaying, hpc⟩ := of_decide_eq_true hp
  obtain ⟨hcntHttp, hcntMqtt⟩ := (cntRelaying_of_reachable hw).1 (by simp [hpc])
  rw [hon, hhttp, hrelaying] at hcntHttp
  rw [hon, hrelaying] at hcntMqtt
  exact ⟨w, hon, hhttp, hcntHttp, hcntMqtt⟩

theorem checksPaused_of_activateRun :
    ∃ w : Watch Nat Unit Nat, w.main.cfgMode = true ∧ ChecksPaused w := by
  obtain ⟨w, hw, hp⟩ := System.exists_reachableVia_of_run (S := sampleWatch) (C := KeepsPaused)
    (s := sampleWatchInit) ⟨_, _, rfl⟩ (activateRun.map .main) (fun w => w.main.cfgMode) (by decide)
  exact ⟨w, hp, (checksPaused_of_keepsPaused hw).1⟩

/-- A check for firmware updates is in progress when configuration mode is activated, and ends
afterwards. -/
def checkEndsRun : List (Act Nat Unit Nat) :=
  [.timerCheckForFwUpdatesFires] ++ handleRun .checkForFwUpdates 0 ++
    [.fwCheckBegin, .send .activateCfgMode] ++ handleRun .activateCfgMode 0 ++
    [.fwCheckDone true] ++ handleRun .scheduleNextCheckForFwUpdates 0

/-- **A timer can run in configuration mode.** -/
theorem check_ends_in_cfgMode : ¬ ∀ w, sampleWatch.Reachable w → ChecksPaused w := by
  intro hall
  obtain ⟨w, hw, hp⟩ := System.exists_reachable_of_run (S := sampleWatch) (s := sampleWatchInit)
    ⟨_, _, rfl⟩ (checkEndsRun.map .main)
    (fun w => w.main.cfgMode && w.main.timerCheckForFwUpdates) (by decide)
  rw [Bool.and_eq_true] at hp
  have hoff := ((hall w hw).timers hp.1).2
  exact absurd (hoff.symm.trans hp.2) Bool.false_ne_true

end examples

end MainLoop
end RuuviGateway
