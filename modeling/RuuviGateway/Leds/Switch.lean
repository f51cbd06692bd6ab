import RuuviGateway.Leds.Outputs
import RuuviGateway.Nrf52.Handlers

/-!
# The users of the analog switch

`gpio_switch_ctrl` counts who needs the analog switch, and `gpio_switch_ctrl_deactivate` asserts
that the count is not zero.  Four places use it: the red LED, the reset line of the nRF52, its
programming pins, and the callback of `leds_ctrl` for the state before a reboot --- which turns
the red LED off whether it is lit or not, and so takes back what it may never have added.  Only
then it puts the nRF52 into reset, which adds one again; the two calls lock the switch one after
the other, and other tasks may use it in between.

The assertion holds all the same.  `main_task_init` puts the nRF52 into reset once before it
creates the LED task, and nobody takes this one back: `nrf52fw_update_fw_if_necessary` and the
`adv_post` task release only what they have added themselves.  So the count never gets below
what the users account for, plus one outside that callback (`accounted_of_reachable`).  The
switch is on wherever somebody accounts for it, and off for a moment at most, inside the callback.

What is left of the assertions on the way of a signal are those of `leds_ctrl` about events that
a state does not expect (`aborts_iff_of_reachable`).

The system is the LED task, the main task and the task of a firmware update as far as they
program the nRF52, and the part of the `adv_post` task that is about the nRF52.
-/

namespace RuuviGateway
namespace Leds

open TransitionSystem

variable {s t : State}

/-! ## Programming the nRF52 -/

/-- Where a task stands in `nrf52fw_update_fw_if_necessary`. -/
inductive UpdatePc where
  | idle
  /-- The nRF52 has been put into reset. -/
  | inReset
  /-- It has been released again. -/
  | released
  /-- `nrf52swd_init` has configured the pins, or failed to. -/
  | swd
  /-- `nrf52fw_update_fw_step0` has returned. -/
  | updated
  /-- The nRF52 has been put into reset again, and it is to be started afterwards or not. -/
  | inResetAgain (run : Bool)
  deriving DecidableEq

/-- The steps of `nrf52fw_update_fw_if_necessary` that use the switch. -/
inductive UpdateAct where
  | reset
  | release
  /-- `nrf52swd_gpio_init`. -/
  | gpioInit (ok : Bool)
  /-- `nrf52fw_update_fw_step0` ends, with `nrf52swd_deinit` unless `nrf52fw_init_swd` has failed
  after `nrf52swd_init`. -/
  | finish (deinit : Bool)
  | resetAgain (run : Bool)
  | leave

/-- What has to be given back to the switch before a task is through. -/
def UpdatePc.held : UpdatePc → Nat
  | .inReset => 1
  | .inResetAgain run => if run then 1 else 0
  | .idle | .released | .swd | .updated => 0

/-- `nrf52swd_deinit`, as far as the switch is concerned, with `g_nrf52swd_switch_ctrl_activated`
before and after. -/
def nrf52swdDeinit (activated : Bool) (b : Board) : Option (Bool × Board) :=
  if activated then (gpioSwitchCtrlDeactivate b).map fun b => (false, b) else some (false, b)

/-- A step of `nrf52fw_update_fw_if_necessary`: `none` where it is not the next one, and
`some none` where an assertion fails. -/
def updateStep (pc : UpdatePc) (activated : Bool) (b : Board) :
    UpdateAct → Option (Option (UpdatePc × Bool × Board))
  | .reset =>
      if pc = .idle then
        some ((nrf52fwHwResetNrf52 true b).map fun b => (.inReset, activated, b))
      else none
  | .release =>
      if pc = .inReset then
        some ((nrf52fwHwResetNrf52 false b).map fun b => (.released, activated, b))
      else none
  | .gpioInit ok =>
      if pc = .released then
        some (some (.swd, ok || activated, if ok then gpioSwitchCtrlActivate b else b))
      else none
  | .finish deinit =>
      if pc = .swd then
        if deinit then
          some ((nrf52swdDeinit activated b).map fun r => (.updated, r.1, r.2))
        else some (some (.updated, activated, b))
      else none
  | .resetAgain run =>
      if pc = .updated then
        some ((nrf52fwHwResetNrf52 true b).map fun b => (.inResetAgain run, activated, b))
      else none
  | .leave =>
      match pc with
      | .inResetAgain true =>
          some ((nrf52fwHwResetNrf52 false b).map fun b => (.idle, activated, b))
      | .inResetAgain false => some (some (.idle, activated, b))
      | _ => none

/-! ## The nRF52 in operation -/

/-- How often a step of the `adv_post` task calls `adv_post_nrf52_reset`. -/
def resetCalls (a : AdvPostNrf52.State) : AdvPostNrf52.Act → Nat
  | .handle .nrf52CfgReqTimeout => 1
  | .handle .nrf52AckTimeout => if AdvPostNrf52.noAckMaxCnt ≤ a.ackTimeoutCnt + 1 then 1 else 0
  | _ => 0

/-- The step handles `NRF52_HW_RESET_OFF`. -/
def isHwResetOff : AdvPostNrf52.Act → Bool
  | .handle .nrf52HwResetOff => true
  | _ => false

/-- What a step of the `adv_post` task does to the switch. -/
def advBoard (a : AdvPostNrf52.State) (act : AdvPostNrf52.Act) (b : Board) : Option Board :=
  if isHwResetOff act then nrf52fwHwResetNrf52 false b
  else if resetCalls a act = 1 then nrf52fwHwResetNrf52 true b
  else some b

/-- The releases of the reset line that are still to come: by the timer and by the signal. -/
def advHeld (a : AdvPostNrf52.State) : Nat :=
  (if a.timerReset then 1 else 0) +
    (if AdvPostNrf52.Sig.nrf52HwResetOff ∈ a.pending then 1 else 0)

/-! ## A reboot -/

/-- `leds_task_handle_sig` for `ON_EV_REBOOT`, as far as `leds_turn_off_red` in the callback. -/
def State.beginReboot (s : State) : Option State :=
  (turnOffBeforeReboot s.board).map fun board => { s with board := board }

/-- The rest: `nrf52fw_hw_reset_nrf52` in the callback, and `leds_ctrl_transition` after it. -/
def State.endReboot (s : State) : Option State :=
  ((nrf52fwHwResetNrf52 true s.board).bind fun board =>
    if s.ctrl.ledsSmState = .afterReboot then
      callIfSet ledsCallbacks.cbOnExitStateAfterReboot board
    else some board).map fun board => { s with ctrl := s.ctrl.enter .beforeReboot, board := board }

/-- The two parts, one after the other, are the handler. -/
theorem handleSig_onEvReboot (h : s.ctrl.ledsSmState ≠ .beforeReboot) :
    handleSig s .onEvReboot = s.beginReboot.bind State.endReboot := by
  have hnew : s.ctrl.newSmState .reboot = some .beforeReboot := rfl
  change handleCtrlEvent .reboot s = _
  rw [handleCtrlEvent, handleEvent_eq_bind, hnew, Option.bind_some, if_neg h.symm, transition,
    callOnTransition, if_neg (by decide), if_pos rfl]
  simp only [callIfSet, ledsCallbacks, ledsCbOnEnterStateBeforeReboot, State.beginReboot,
    State.endReboot]
  cases turnOffBeforeReboot s.board with
  | none => rfl
  | some b =>
    simp only [Option.bind_some, Option.map_some, Option.map_map]
    rfl

/-! ## The system -/

/-- The tasks that use the switch. -/
structure Gateway where
  leds : State
  /-- The LED task is between the two calls of `leds_cb_on_enter_state_before_reboot`. -/
  inReboot : Bool
  /-- `g_nrf52swd_switch_ctrl_activated`. -/
  swdActivated : Bool
  main : UpdatePc
  fwUpdate : UpdatePc
  /-- The `adv_post` task, once it has been started. -/
  adv : Option AdvPostNrf52.State

/-- What can happen. -/
inductive GatewayAct where
  /-- The LED task takes a signal; if this is a reboot, it stops between the two calls. -/
  | leds (sig : LedsTaskSig)
  /-- The LED task goes on with the reboot. -/
  | ledsReset
  | main (a : UpdateAct)
  | fwUpdate (a : UpdateAct)
  /-- `adv_post_nrf52_init`. -/
  | advInit (scan : GwCfgScan) (filter : GwCfgFilter) (manualResetMode : Bool)
      (radio : Option AdvPostNrf52.SetAll)
  | adv (a : AdvPostNrf52.Act)

/-- The gateway with another board. -/
def Gateway.withBoard (g : Gateway) (b : Board) : Gateway :=
  { g with leds := { g.leds with board := b } }

/-- One step: `none` where it is not possible, and `some none` where an assertion on the way of a
signal to the LEDs or of `gpio_switch_ctrl` fails. -/
def tryStep (g : Gateway) : GatewayAct → Option (Option Gateway)
  | .leds sig =>
      if g.inReboot then none
      else if sig = .onEvReboot ∧ g.leds.ctrl.ledsSmState ≠ .beforeReboot then
        some (g.leds.beginReboot.map fun leds => { g with leds := leds, inReboot := true })
      else some ((handleSig g.leds sig).map fun leds => { g with leds := leds })
  | .ledsReset =>
      if g.inReboot then
        some (g.leds.endReboot.map fun leds => { g with leds := leds, inReboot := false })
      else none
  | .main a =>
      (updateStep g.main g.swdActivated g.leds.board a).map fun r =>
        r.map fun u => { g.withBoard u.2.2 with main := u.1, swdActivated := u.2.1 }
  | .fwUpdate a =>
      (updateStep g.fwUpdate g.swdActivated g.leds.board a).map fun r =>
        r.map fun u => { g.withBoard u.2.2 with fwUpdate := u.1, swdActivated := u.2.1 }
  | .advInit scan filter manualResetMode radio =>
      if g.adv.isNone then
        some ((nrf52fwHwResetNrf52 true g.leds.board).map fun b =>
          { g.withBoard b with
            adv := some (AdvPostNrf52.init scan filter manualResetMode radio) })
      else none
  | .adv act =>
      g.adv.bind fun a =>
        (AdvPostNrf52.step a act).map fun a' =>
          (advBoard a act g.leds.board).map fun b => { g.withBoard b with adv := some a' }

/-- The gateway from the creation of the LED task on; `main_task_init` has put the nRF52 into
reset before. -/
def gatewaySystem : System Gateway GatewayAct where
  init g := ∃ pressed leds, ledsInit pressed 1 true = some leds ∧
    g = ⟨leds, false, false, .idle, .idle, none⟩
  step g act := (tryStep g act).join

/-! ## The reset line of the nRF52 -/

@[simp] theorem nrf52fwHwResetNrf52_true (b : Board) :
    nrf52fwHwResetNrf52 true b =
      some { b with switchCtrlCnt := b.switchCtrlCnt + 1, nrf52Reset := true } := rfl

theorem nrf52fwHwResetNrf52_false {b : Board} (h : 0 < b.switchCtrlCnt) :
    nrf52fwHwResetNrf52 false b =
      some { b with switchCtrlCnt := b.switchCtrlCnt - 1, nrf52Reset := false } := by
  simp [nrf52fwHwResetNrf52, gpioSwitchCtrlDeactivate, h]

/-- What a task takes from the switch it has added before, or it leaves it there. -/
theorem updateStep_accounted {pc : UpdatePc} {activated : Bool} {b : Board} {a : UpdateAct}
    {r : Option (UpdatePc × Bool × Board)}
    (hcnt : pc.held + activated.toNat ≤ b.switchCtrlCnt)
    (h : updateStep pc activated b a = some r) :
    ∃ pc' activated' b', r = some (pc', activated', b') ∧
      b.switchCtrlCnt + pc'.held + activated'.toNat ≤
        b'.switchCtrlCnt + pc.held + activated.toNat := by
  cases a with
  | reset =>
    obtain ⟨rfl, hr⟩ := Option.ite_none_right_eq_some.mp h
    exact ⟨_, _, _, (Option.some.inj hr).symm, by
      simp [UpdatePc.held, gpioSwitchCtrlActivate]⟩
  | release =>
    obtain ⟨rfl, hr⟩ := Option.ite_none_right_eq_some.mp h
    rw [nrf52fwHwResetNrf52_false (by simp only [UpdatePc.held] at hcnt; omega)] at hr
    exact ⟨_, _, _, (Option.some.inj hr).symm, by simp only [UpdatePc.held] at hcnt ⊢; omega⟩
  | gpioInit ok =>
    obtain ⟨rfl, hr⟩ := Option.ite_none_right_eq_some.mp h
    refine ⟨_, _, _, (Option.some.inj hr).symm, ?_⟩
    cases ok <;> cases activated <;> simp [UpdatePc.held, gpioSwitchCtrlActivate]
  | finish deinit =>
    obtain ⟨rfl, hr⟩ := Option.ite_none_right_eq_some.mp h
    cases deinit with
    | false => exact ⟨_, _, _, (Option.some.inj hr).symm, by simp [UpdatePc.held]⟩
    | true =>
      cases activated with
      | false => exact ⟨_, _, _, (Option.some.inj hr).symm, by simp [UpdatePc.held]⟩
      | true =>
        have hpos : 0 < b.switchCtrlCnt := by
          rw [Bool.toNat_true] at hcnt
          omega
        simp only [if_true, nrf52swdDeinit, gpioSwitchCtrlDeactivate, if_pos hpos,
          Option.map_some] at hr
        refine ⟨_, _, _, (Option.some.inj hr).symm, ?_⟩
        simp only [UpdatePc.held, Bool.toNat_true, Bool.toNat_false] at hcnt ⊢
        omega
  | resetAgain run =>
    obtain ⟨rfl, hr⟩ := Option.ite_none_right_eq_some.mp h
    refine ⟨_, _, _, (Option.some.inj hr).symm, ?_⟩
    cases run <;> simp [UpdatePc.held, gpioSwitchCtrlActivate]
  | leave =>
    cases pc with
    | inResetAgain run =>
      cases run with
      | false => exact ⟨_, _, _, (Option.some.inj h).symm, by simp [UpdatePc.held]⟩
      | true =>
        have hpos : 0 < b.switchCtrlCnt := by
          simp only [UpdatePc.held, if_true] at hcnt
          omega
        rw [updateStep, nrf52fwHwResetNrf52_false hpos] at h
        refine ⟨_, _, _, (Option.some.inj h).symm, ?_⟩
        simp only [UpdatePc.held, if_true] at hcnt ⊢
        omega
    | idle | inReset | released | swd | updated => exact absurd h (by simp [updateStep])

/-! ## The `adv_post` task -/

/-- Nothing has changed for the end of a reset. -/
structure SameReset (a a' : AdvPostNrf52.State) : Prop where
  timer : a'.timerReset = a.timerReset
  pending : AdvPostNrf52.Sig.nrf52HwResetOff ∈ a'.pending ↔
    AdvPostNrf52.Sig.nrf52HwResetOff ∈ a.pending

theorem SameReset.advHeld_eq {a a' : AdvPostNrf52.State} (h : SameReset a a') :
    advHeld a' = advHeld a := by
  unfold advHeld
  rw [h.timer]
  by_cases hmem : AdvPostNrf52.Sig.nrf52HwResetOff ∈ a.pending
  · rw [if_pos hmem, if_pos (h.pending.mpr hmem)]
  · rw [if_neg hmem, if_neg (mt h.pending.mp hmem)]

theorem advHeld_reset_le (a : AdvPostNrf52.State) :
    advHeld (AdvPostNrf52.reset a) ≤ advHeld a + 1 := by
  unfold advHeld AdvPostNrf52.reset
  cases a.timerReset
  · simp
    omega
  · simp

theorem sameReset_sendSig {sig : AdvPostNrf52.Sig} (h : sig ≠ .nrf52HwResetOff)
    (a : AdvPostNrf52.State) : SameReset a (AdvPostNrf52.sendSig sig a) :=
  ⟨rfl, by simp [AdvPostNrf52.sendSig, h.symm]⟩

theorem sameReset_sendCmdCfg {a a' : AdvPostNrf52.State}
    (h : AdvPostNrf52.sendCmdCfgInternal a = some a') : SameReset a a' := by
  obtain ⟨-, -, rfl | ⟨-, rfl⟩⟩ := AdvPostNrf52.sendCmdCfgInternal_eq_some h
  · exact ⟨rfl, Iff.rfl⟩
  · exact ⟨rfl, Iff.rfl⟩

theorem sameReset_sendCmdLedCtrl {a a' : AdvPostNrf52.State}
    (h : AdvPostNrf52.sendCmdLedCtrlInternal a = some a') : SameReset a a' := by
  rw [AdvPostNrf52.sendCmdLedCtrlInternal_eq_some h]
  exact ⟨rfl, Iff.rfl⟩

theorem sameReset_onAsyncAck (ack : AdvPostNrf52.RxAck) (a : AdvPostNrf52.State) :
    SameReset a (AdvPostNrf52.onAsyncAck ack a) := by
  simp only [AdvPostNrf52.onAsyncAck]
  split
  · exact ⟨rfl, Iff.rfl⟩
  · split
    · split
      · exact ⟨rfl, (sameReset_sendSig (by decide) _).pending⟩
      · exact ⟨rfl, Iff.rfl⟩
    · split
      · exact ⟨rfl, (sameReset_sendSig (by decide) _).pending⟩
      · exact ⟨rfl, Iff.rfl⟩
    · exact ⟨rfl, Iff.rfl⟩

/-- A handler can arm the reset timer only by a reset, and only the timer raises its signal. -/
theorem advHeld_handleSig {a a' : AdvPostNrf52.State} {sig : AdvPostNrf52.Sig}
    (hsig : sig ≠ .nrf52HwResetOff) (h : AdvPostNrf52.handleSig sig a = some a') :
    advHeld a' ≤ advHeld a + resetCalls a (.handle sig) := by
  cases sig with
  | nrf52HwResetOff => exact absurd rfl hsig
  | nrf52Configured => exact Option.some.inj h ▸ Nat.le_add_right _ _
  | nrf52CfgReqTimeout =>
    rw [← Option.some.inj h]
    exact advHeld_reset_le a
  | nrf52Rebooted =>
    rw [← Option.some.inj h]
    refine (SameReset.advHeld_eq ?_).le
    simp only [AdvPostNrf52.onSigNrf52Rebooted]
    split
    · exact ⟨rfl, Iff.rfl⟩
    · split
      · exact ⟨rfl, (sameReset_sendSig (by decide) _).pending⟩
      · exact ⟨rfl, Iff.rfl⟩
  | nrf52CfgUpdate =>
    refine (SameReset.advHeld_eq ?_).le
    simp only [AdvPostNrf52.handleSig, AdvPostNrf52.onSigNrf52CfgUpdate] at h
    split at h
    · have hsame := sameReset_sendCmdCfg h
      exact ⟨hsame.timer, hsame.pending⟩
    · exact Option.some.inj h ▸ ⟨rfl, Iff.rfl⟩
  | nrf52AckLedCtrl =>
    refine (SameReset.advHeld_eq ?_).le
    simp only [AdvPostNrf52.handleSig, AdvPostNrf52.onSyncAckLedCtrl] at h
    split at h
    · have hsame := sameReset_sendCmdCfg h
      exact ⟨hsame.timer, hsame.pending⟩
    · exact Option.some.inj h ▸ ⟨rfl, Iff.rfl⟩
  | nrf52AckCfg =>
    refine (SameReset.advHeld_eq ?_).le
    simp only [AdvPostNrf52.handleSig, AdvPostNrf52.onSyncAckCfg] at h
    split at h
    · have hsame := sameReset_sendCmdLedCtrl h
      exact ⟨hsame.timer, hsame.pending⟩
    · exact Option.some.inj h ▸ ⟨rfl, Iff.rfl⟩
  | nrf52AckTimeout =>
    simp only [AdvPostNrf52.handleSig, AdvPostNrf52.onSyncAckTimeout] at h
    by_cases hcnt : AdvPostNrf52.noAckMaxCnt ≤ a.ackTimeoutCnt + 1
    · rw [if_pos hcnt] at h
      rw [← Option.some.inj h, resetCalls, if_pos hcnt]
      exact advHeld_reset_le _
    · rw [if_neg hcnt] at h
      refine (SameReset.advHeld_eq ?_).le.trans (Nat.le_add_right _ _)
      split at h
      · have hsame := sameReset_sendCmdCfg h
        exact ⟨hsame.timer, hsame.pending⟩
      · split at h
        · have hsame := sameReset_sendCmdLedCtrl h
          exact ⟨hsame.timer, hsame.pending⟩
        · exact Option.some.inj h ▸ ⟨rfl, Iff.rfl⟩

/-- What the task takes from the switch it has added before. -/
theorem advHeld_step {a a' : AdvPostNrf52.State} {act : AdvPostNrf52.Act}
    (h : AdvPostNrf52.step a act = some a') :
    advHeld a' + (if isHwResetOff act then 1 else 0) ≤ advHeld a + resetCalls a act := by
  cases act with
  | handle sig =>
    obtain ⟨hmem, h⟩ := Option.ite_none_right_eq_some.mp h
    by_cases hsig : sig = .nrf52HwResetOff
    · subst hsig
      rw [← Option.some.inj h]
      simp [advHeld, AdvPostNrf52.onSigNrf52HwResetOff, AdvPostNrf52.radioReboot, isHwResetOff,
        hmem]
      exact Nat.le_add_right _ _
    · have htake : advHeld { a with pending := a.pending.erase sig } = advHeld a :=
        SameReset.advHeld_eq ⟨rfl, by simp [Ne.symm hsig]⟩
      have hoff : isHwResetOff (.handle sig) = false := by
        cases sig <;> first | rfl | exact absurd rfl hsig
      rw [hoff, ← htake]
      exact advHeld_handleSig hsig h
  | cfgUpdate scan filter =>
    rw [← Option.some.inj h]
    exact (sameReset_sendSig (by decide) _).advHeld_eq.le
  | sendLedCtrl timeIntervalMs =>
    refine (SameReset.advHeld_eq ?_).le
    simp only [AdvPostNrf52.step, AdvPostNrf52.sendLedCtrl] at h
    split at h
    · have hsame := sameReset_sendCmdLedCtrl h
      exact ⟨hsame.timer, hsame.pending⟩
    · exact Option.some.inj h ▸ ⟨rfl, Iff.rfl⟩
  | ackTimerFires =>
    obtain ⟨-, h⟩ := Option.ite_none_right_eq_some.mp h
    rw [← Option.some.inj h]
    exact (sameReset_sendSig (by decide) _).advHeld_eq.le
  | resetTimerFires =>
    obtain ⟨htimer, h⟩ := Option.ite_none_right_eq_some.mp h
    rw [← Option.some.inj h]
    simp [advHeld, AdvPostNrf52.sendSig, htimer, isHwResetOff, Nat.add_assoc]
  | cfgReqTimerFires =>
    obtain ⟨-, h⟩ := Option.ite_none_right_eq_some.mp h
    rw [← Option.some.inj h]
    exact (sameReset_sendSig (by decide) _).advHeld_eq.le
  | radioReceive ackState =>
    refine (SameReset.advHeld_eq ?_).le
    simp only [AdvPostNrf52.step, AdvPostNrf52.radioReceive] at h
    split at h
    · exact absurd h (by simp)
    · split at h
      · exact absurd h (by simp)
      · rw [← Option.some.inj h]
        unfold AdvPostNrf52.radioApply
        split
        · exact ⟨rfl, Iff.rfl⟩
        · exact ⟨rfl, Iff.rfl⟩
  | loseCmd =>
    simp only [AdvPostNrf52.step] at h
    split at h
    · exact absurd h (by simp)
    · exact Option.some.inj h ▸ Nat.le_refl _
  | recvAck =>
    refine (SameReset.advHeld_eq ?_).le
    simp only [AdvPostNrf52.step] at h
    split at h
    · exact absurd h (by simp)
    · rename_i ack rest _
      have hsame := sameReset_onAsyncAck ack { a with uartRx := rest }
      exact Option.some.inj h ▸ ⟨hsame.timer, hsame.pending⟩
  | loseAck =>
    simp only [AdvPostNrf52.step] at h
    split at h
    · exact absurd h (by simp)
    · exact Option.some.inj h ▸ Nat.le_refl _
  | radioReboot =>
    rw [← Option.some.inj h]
    refine (SameReset.advHeld_eq ?_).le
    exact ⟨rfl, by simp [AdvPostNrf52.radioReboot]⟩

/-- The task adds and takes at most one at a time. -/
theorem resetCalls_cases (a : AdvPostNrf52.State) (act : AdvPostNrf52.Act) :
    resetCalls a act = 0 ∨ resetCalls a act = 1 ∧ isHwResetOff act = false := by
  unfold resetCalls
  split
  · exact Or.inr ⟨rfl, rfl⟩
  · split
    · exact Or.inr ⟨rfl, rfl⟩
    · exact Or.inl rfl
  · exact Or.inl rfl

/-- What the task does to the switch is possible, and follows what it still has to give back. -/
theorem advBoard_accounted {a a' : AdvPostNrf52.State} {act : AdvPostNrf52.Act} {b : Board}
    (h : AdvPostNrf52.step a act = some a') (hcnt : advHeld a ≤ b.switchCtrlCnt) :
    ∃ b', advBoard a act b = some b' ∧
      b.switchCtrlCnt + advHeld a' ≤ b'.switchCtrlCnt + advHeld a := by
  have hheld := advHeld_step h
  unfold advBoard
  obtain hzero | ⟨hone, hoff⟩ := resetCalls_cases a act
  · cases hoff : isHwResetOff act with
    | true =>
      simp only [hoff, if_true] at hheld
      rw [if_pos rfl, nrf52fwHwResetNrf52_false (by omega)]
      exact ⟨_, rfl, by simp only; omega⟩
    | false =>
      simp only [hoff, Bool.false_eq_true, if_false] at hheld
      rw [if_neg Bool.false_ne_true, if_neg (by omega)]
      exact ⟨_, rfl, by omega⟩
  · simp only [hoff, Bool.false_eq_true, if_false] at hheld
    rw [hoff, if_neg Bool.false_ne_true, if_pos hone, nrf52fwHwResetNrf52_true]
    exact ⟨_, rfl, by simp only; omega⟩

/-! ## The LED task -/

/-- The red LED accounts for one user of the switch. -/
def redHeld (s : State) : Nat := if s.ledsState = .red then 1 else 0

/-- No signal takes from the switch what the red LED has not added. -/
theorem redHeld_handleSig {sig : LedsTaskSig} (hready : Ready s)
    (h : handleSig s sig = some t) :
    t.board.switchCtrlCnt + redHeld s = s.board.switchCtrlCnt + redHeld t := by
  obtain ⟨rfl, hupdate⟩ | ⟨-, rfl, -⟩ | ⟨-, event, new, b, -, hne, hnew, hb, rfl⟩ :=
    handleSig_cases h
  · obtain ⟨color, u, hshown, -, -, hboard, hcolor, -⟩ := exists_shown hready hupdate
    rw [hboard, redHeld, redHeld, hcolor]
    exact hshown.switchCtrlCnt
  · have hsame := sameOutputs_inform sig s
    rw [hsame.board, redHeld, redHeld, hsame.ledsState]
  · have hsame := sameOutputs_inform sig s
    have hcnt : b.switchCtrlCnt = s.board.switchCtrlCnt := by
      rw [← hsame.ledsSmState] at hne
      rw [callOnTransition_eq (LedsCtrl.newSmState_eq_some hnew hne).2.1] at hb
      split at hb
      · obtain ⟨-, hb⟩ := Option.ite_none_right_eq_some.mp hb
        rw [← Option.some.inj hb]
      · rw [← Option.some.inj hb]
    simp only [redHeld, hcnt, hsame.ledsState]

/-- The machine takes what the signal brings. -/
def State.Takes (s : State) (sig : LedsTaskSig) : Prop :=
  ∀ event, sig.ctrlEvent = some event → (sig.inform s).ctrl.Takes event

/-- With a user of the switch besides the red LED, an assertion on the way of a signal fails just
where the machine does not take the event. -/
theorem isSome_handleSig_iff {sig : LedsTaskSig} (hready : Ready s)
    (hcnt : redHeld s < s.board.switchCtrlCnt) :
    (handleSig s sig).isSome = true ↔ s.Takes sig := by
  by_cases hsig : sig = .update
  · subst hsig
    refine iff_of_true ?_ fun event h => absurd h (by simp [LedsTaskSig.ctrlEvent])
    obtain ⟨sequence, hseq, hplay, hidx⟩ := hready.playing
    have hblink : s.blinking = ⟨some sequence, s.blinking.sequenceIdx⟩ := by rw [← hseq]
    have hsome := isSome_setColor
      ((colorsOf sequence).get ⟨s.blinking.sequenceIdx, by simpa using hidx⟩)
      (s := { s with
        blinking := ⟨some sequence,
          if s.blinking.sequenceIdx + 1 = sequence.length then 0
          else s.blinking.sequenceIdx + 1⟩ }) fun _ => Nat.zero_lt_of_lt hcnt
    obtain ⟨u, hu⟩ := Option.isSome_iff_exists.mp hsome
    have hshown := shown_of_setColor (by exact hready.green) hu
    rw [show handleSig s .update = handleSigUpdate s from rfl,
      handleSigUpdate_eq hplay hidx hblink, hu, Option.bind_some,
      startNextSequence_eq (by rw [hshown.ctrl]; exact hready.started)]
    rfl
  · rw [handleSig_eq hsig, State.Takes]
    cases hevent : sig.ctrlEvent with
    | none => simp
    | some event =>
      have hsame := sameOutputs_inform sig s
      simp only [Option.some.injEq, forall_eq', ← LedsCtrl.isSome_newSmState_iff]
      unfold handleCtrlEvent
      rw [handleEvent_eq_bind, Option.isSome_map]
      cases hnew : (sig.inform s).ctrl.newSmState event with
      | none => rfl
      | some new =>
        refine iff_of_true ?_ rfl
        by_cases hne : new = (sig.inform s).ctrl.ledsSmState
        · rw [Option.bind_some, if_pos hne]
          rfl
        · rw [Option.bind_some, if_neg hne, transition, Option.isSome_map,
            callOnTransition_eq (LedsCtrl.newSmState_eq_some hnew hne).2.1, hsame.board,
            if_pos (Nat.zero_lt_of_lt hcnt)]
          split
          · rfl
          · rfl

/-! ## The invariant -/

/-- The users of the switch that will take back what they have added. -/
def Gateway.users (g : Gateway) : Nat :=
  redHeld g.leds + g.swdActivated.toNat + g.main.held + g.fwUpdate.held +
    (g.adv.map advHeld).getD 0

/-- The count covers all users, and one more outside the callback for a reboot. -/
structure Accounted (g : Gateway) : Prop where
  ready : Ready g.leds
  users : g.users + (!g.inReboot).toNat ≤ g.leds.board.switchCtrlCnt

theorem accounted_init {g : Gateway} (h : gatewaySystem.init g) : Accounted g := by
  obtain ⟨pressed, leds, hinit, rfl⟩ := h
  have hsettled : Settled ⟨leds, []⟩ := settled_init ⟨pressed, 1, true, hinit, rfl⟩
  refine ⟨hsettled.ready, ?_⟩
  rw [ledsInit_eq_some hinit]
  simp [Gateway.users, redHeld, UpdatePc.held]

@[simp] theorem redHeld_withBoard (s : State) (b : Board) :
    redHeld { s with board := b } = redHeld s := rfl

/-- The LEDs with another board are as ready as before. -/
theorem ready_withBoard {s : State} (h : Ready s) (b : Board) : Ready { s with board := b } :=
  ⟨h.started, h.playing, h.green⟩

/-- The first part of a reboot takes one from the switch. -/
theorem beginReboot_accounted (hcnt : 0 < s.board.switchCtrlCnt) :
    ∃ t, s.beginReboot = some t ∧ (Ready s → Ready t) ∧ redHeld t = redHeld s ∧
      t.board.switchCtrlCnt + 1 = s.board.switchCtrlCnt := by
  have hoff : turnOffBeforeReboot s.board = some { s.board with
      timerSigUpdate := { s.board.timerSigUpdate with active := false }
      redLed := false
      switchCtrlCnt := s.board.switchCtrlCnt - 1 } := if_pos hcnt
  rw [State.beginReboot, hoff]
  exact ⟨_, rfl, fun h => ready_withBoard h _, rfl, Nat.sub_add_cancel hcnt⟩

/-- The second part gives it back. -/
theorem endReboot_accounted (s : State) :
    ∃ t, s.endReboot = some t ∧ (Ready s → Ready t) ∧ redHeld t = redHeld s ∧
      t.board.switchCtrlCnt = s.board.switchCtrlCnt + 1 := by
  rw [State.endReboot, nrf52fwHwResetNrf52_true, Option.bind_some]
  by_cases hafter : s.ctrl.ledsSmState = .afterReboot
  · rw [if_pos hafter]
    exact ⟨_, rfl, fun h => ⟨by simp, h.playing, h.green⟩, rfl, rfl⟩
  · rw [if_neg hafter]
    exact ⟨_, rfl, fun h => ⟨by simp, h.playing, h.green⟩, rfl, rfl⟩

theorem takes_onEvReboot (s : State) : s.Takes .onEvReboot :=
  fun _ h => Or.inl (Option.some.inj h).symm

/-- What a signal to the LEDs can do. -/
theorem tryStep_leds_cases {g : Gateway} {sig : LedsTaskSig} {r : Option Gateway}
    (h : Accounted g) (hstep : tryStep g (.leds sig) = some r) :
    g.inReboot = false ∧
      ((∃ g', r = some g' ∧ Accounted g') ∨ r = none ∧ ¬ g.leds.Takes sig) := by
  have husers := h.users
  unfold Gateway.users at husers
  obtain ⟨hidle, hstep⟩ := Option.ite_none_left_eq_some.mp hstep
  simp only [Bool.not_eq_true] at hidle
  refine ⟨hidle, ?_⟩
  rw [hidle, Bool.not_false, Bool.toNat_true] at husers
  by_cases hreboot : sig = .onEvReboot ∧ g.leds.ctrl.ledsSmState ≠ .beforeReboot
  · rw [if_pos hreboot] at hstep
    obtain ⟨leds, hleds, hready, hred, hcnt⟩ :=
      beginReboot_accounted (s := g.leds) (by omega)
    rw [hleds] at hstep
    refine Or.inl ⟨_, (Option.some.inj hstep).symm, hready h.ready, ?_⟩
    simp only [Gateway.users, Bool.not_true, Bool.toNat_false, hred]
    omega
  · rw [if_neg hreboot] at hstep
    obtain rfl := Option.some.inj hstep
    cases hsig : handleSig g.leds sig with
    | none =>
      refine Or.inr ⟨rfl, fun htakes => ?_⟩
      have hsome := (isSome_handleSig_iff h.ready (by omega)).mpr htakes
      rw [hsig] at hsome
      exact absurd hsome Bool.false_ne_true
    | some leds =>
      refine Or.inl ⟨_, rfl, ready_handleSig h.ready hsig, ?_⟩
      have hred := redHeld_handleSig h.ready hsig
      simp only [Gateway.users, hidle, Bool.not_false, Bool.toNat_true]
      omega

/-- What can become of a step: it keeps the account, or it is a signal that is not taken. -/
theorem tryStep_cases {g : Gateway} {act : GatewayAct} {r : Option Gateway} (h : Accounted g)
    (hstep : tryStep g act = some r) :
    (∃ g', r = some g' ∧ Accounted g') ∨
      r = none ∧ ∃ sig, act = .leds sig ∧ g.inReboot = false ∧ ¬ g.leds.Takes sig := by
  have husers := h.users
  unfold Gateway.users at husers
  cases act with
  | leds sig =>
    obtain ⟨hidle, hkept | ⟨rfl, htakes⟩⟩ := tryStep_leds_cases h hstep
    · exact Or.inl hkept
    · exact Or.inr ⟨rfl, sig, rfl, hidle, htakes⟩
  | ledsReset =>
    obtain ⟨hreboot, hstep⟩ := Option.ite_none_right_eq_some.mp hstep
    obtain ⟨leds, hleds, hready, hred, hcnt⟩ := endReboot_accounted g.leds
    rw [hleds] at hstep
    refine Or.inl ⟨_, (Option.some.inj hstep).symm, hready h.ready, ?_⟩
    simp only [hreboot, Bool.not_true, Bool.toNat_false] at husers
    simp only [Gateway.users, Bool.not_false, Bool.toNat_true, hred]
    omega
  | main a =>
    obtain ⟨r', hr', rfl⟩ := Option.map_eq_some_iff.mp hstep
    obtain ⟨pc, activated, b, rfl, hcnt⟩ := updateStep_accounted (by omega) hr'
    refine Or.inl ⟨_, rfl, ready_withBoard h.ready b, ?_⟩
    simp only [Gateway.users, Gateway.withBoard, redHeld_withBoard]
    omega
  | fwUpdate a =>
    obtain ⟨r', hr', rfl⟩ := Option.map_eq_some_iff.mp hstep
    obtain ⟨pc, activated, b, rfl, hcnt⟩ := updateStep_accounted (by omega) hr'
    refine Or.inl ⟨_, rfl, ready_withBoard h.ready b, ?_⟩
    simp only [Gateway.users, Gateway.withBoard, redHeld_withBoard]
    omega
  | advInit scan filter manualResetMode radio =>
    obtain ⟨hnone, hr⟩ := Option.ite_none_right_eq_some.mp hstep
    rw [nrf52fwHwResetNrf52_true] at hr
    obtain rfl := Option.some.inj hr
    refine Or.inl ⟨_, rfl, ready_withBoard h.ready _, ?_⟩
    have hadv : advHeld (AdvPostNrf52.init scan filter manualResetMode radio) = 1 := rfl
    simp only [Option.isNone_iff_eq_none] at hnone
    simp only [Gateway.users, Gateway.withBoard, redHeld_withBoard, hnone, Option.map_some,
      Option.map_none, Option.getD_some, Option.getD_none, hadv] at husers ⊢
    omega
  | adv act =>
    obtain ⟨a, ha, hr⟩ := Option.bind_eq_some_iff.mp hstep
    obtain ⟨a', ha', rfl⟩ := Option.map_eq_some_iff.mp hr
    rw [ha, Option.map_some, Option.getD_some] at husers
    obtain ⟨b, hb, hcnt⟩ := advBoard_accounted ha' (b := g.leds.board) (by omega)
    refine Or.inl ⟨_, by rw [hb]; rfl, ready_withBoard h.ready b, ?_⟩
    simp only [Gateway.users, Gateway.withBoard, redHeld_withBoard, Option.map_some,
      Option.getD_some]
    omega

theorem accounted_of_reachable {g : Gateway} (h : gatewaySystem.Reachable g) : Accounted g := by
  refine h.invariant (fun g => accounted_init) ?_
  intro g act g' _ hg _ hstep
  obtain ⟨g'', hsome, hg''⟩ | ⟨hnone, -⟩ :=
    tryStep_cases hg (Option.join_eq_some_iff.mp hstep)
  · exact Option.some.inj hsome ▸ hg''
  · exact absurd hnone (by simp)

/-! ## The properties -/

/-- **The switch never runs out of users** in any run: the count is as great as what the users
account for, and greater wherever the LED task is not in the middle of a reboot. -/
theorem users_le_of_reachable {g : Gateway} (h : gatewaySystem.Reachable g) :
    g.users ≤ g.leds.board.switchCtrlCnt ∧
      (g.inReboot = false → g.users < g.leds.board.switchCtrlCnt) := by
  have husers := (accounted_of_reachable h).users
  refine ⟨by omega, fun hidle => ?_⟩
  rw [hidle, Bool.not_false, Bool.toNat_true] at husers
  omega

/-- **Where an assertion fails** in any run: only where the LED task takes a signal that the
state of the machine does not expect. -/
theorem aborts_iff_of_reachable {g : Gateway} (h : gatewaySystem.Reachable g) (act : GatewayAct) :
    tryStep g act = some none ↔
      ∃ sig, act = .leds sig ∧ g.inReboot = false ∧ ¬ g.leds.Takes sig := by
  have hg := accounted_of_reachable h
  constructor
  · intro hstep
    obtain ⟨g', hsome, -⟩ | ⟨-, hsig⟩ := tryStep_cases hg hstep
    · exact absurd hsome (by simp)
    · exact hsig
  · rintro ⟨sig, rfl, hidle, htakes⟩
    have husers := hg.users
    rw [Gateway.users, hidle, Bool.not_false, Bool.toNat_true] at husers
    have hnone : handleSig g.leds sig = none := by
      rw [← Option.not_isSome_iff_eq_none, isSome_handleSig_iff hg.ready (by omega)]
      exact htakes
    have hsig : ¬ (sig = .onEvReboot ∧ g.leds.ctrl.ledsSmState ≠ .beforeReboot) := by
      rintro ⟨rfl, -⟩
      exact htakes (takes_onEvReboot g.leds)
    rw [tryStep, if_neg (by simp [hidle]), if_neg hsig, hnone, Option.map_none]

/-- A start without the button. -/
def firstGateway : Gateway := ⟨firstRun.state, false, false, .idle, .idle, none⟩

theorem init_firstGateway : gatewaySystem.init firstGateway :=
  ⟨false, _, (Option.some_get _).symm, rfl⟩

/-- After the nRF52 has been programmed, a reboot with the red LED off leaves no user for a
moment. -/
theorem users_le_of_reboot :
    ∃ g, gatewaySystem.Reachable g ∧ g.inReboot = true ∧ g.leds.board.switchCtrlCnt = 0 ∧
      g.users = 0 := by
  obtain ⟨g, hg, hp⟩ := System.exists_reachable_of_run init_firstGateway
    [.leds .update, .leds .update, .main .reset, .main .release, .main (.gpioInit true),
      .main (.finish true), .main (.resetAgain true), .main .leave, .leds .onEvReboot]
    (fun g => decide (g.inReboot = true ∧ g.leds.board.switchCtrlCnt = 0)) (by decide +kernel)
  obtain ⟨hreboot, hcnt⟩ := of_decide_eq_true hp
  have hle := (users_le_of_reachable hg).1
  exact ⟨g, hg, hreboot, hcnt, by omega⟩

/-- The configuration is ready before the nRF52 is. -/
theorem aborts_of_early_cfgReady :
    ∃ g, gatewaySystem.Reachable g ∧ g.leds.ctrl.ledsSmState = .checkingNrf52Fw ∧
      tryStep g (.leds (.onEvCfgReady true true false)) = some none := by
  obtain ⟨g, hg, hp⟩ := System.exists_reachable_of_run init_firstGateway
    [.leds .onEvNrf52FwCheck]
    (fun g => decide (g.inReboot = false ∧ g.leds.ctrl.ledsSmState = .checkingNrf52Fw))
    (by decide +kernel)
  obtain ⟨hidle, hstate⟩ := of_decide_eq_true hp
  refine ⟨g, hg, hstate, (aborts_iff_of_reachable hg _).mpr ⟨_, rfl, hidle, fun htakes => ?_⟩⟩
  obtain h | h | ⟨h, -⟩ := htakes .cfgReady rfl
  · exact absurd h (by decide)
  · exact absurd h (by decide)
  · rw [(sameOutputs_inform _ _).ledsSmState, hstate] at h
    exact absurd h (by decide)

end Leds
end RuuviGateway
