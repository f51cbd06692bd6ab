import RuuviGateway.Nrf52.Handlers
import RuuviGateway.Nrf52.Progress

/-!
# Matching ACKs with commands

`adv_post_nrf52_on_async_ack` compares the command of an ACK with
`g_adv_post_nrf52_last_cmd`, and it forgets the last command before it looks at the result.  So
the first ACK that comes in after a command has been sent is the only one that can be taken for
its answer, even if it is the late ACK of another command; the ACK of the command itself is then
not recognized any more.

`Watch` adds to the gateway what `g_adv_post_nrf52_last_cmd` would be if it were only read here:
the command that was sent last, and whether an ACK has come in since.  An ACK is matched in the
right way (`AckMatched`) if and only if it is the first one, or comes too late to do harm.
-/

namespace RuuviGateway
namespace AdvPostNrf52

open TransitionSystem

variable {s t : State}

/-! ## The command that is awaited -/

/-- The gateway, the command that it has sent last, and whether an ACK has come in since. -/
structure Watch where
  state : State
  awaited : UartCmd
  answered : Bool

/-- The command that was handed to the UART last. -/
def lastSent (s : State) : UartCmd :=
  match s.uartTx.getLast? with
  | none => .zero
  | some m => m.msg.cmd

/-- One event, with the commands that are sent and the ACKs noted down. -/
def watchStep (w : Watch) (ev : Event) : Option Watch :=
  (gatewayStep w.state ev).map fun t =>
    match ev with
    | .recvAck _ => ⟨t, w.awaited, true⟩
    | _ => if t.uartTx = w.state.uartTx then ⟨t, w.awaited, w.answered⟩ else ⟨t, lastSent t, false⟩

/-- The gateway that is watched, from `adv_post_nrf52_init` on. -/
def watchSystem (manualResetMode : Bool) : System Watch Event where
  init w := (gatewaySystem manualResetMode).init w.state ∧ w.awaited = .zero ∧ w.answered = false
  step := watchStep

/-! ## What an event does to the last command -/

/-- Either no command is sent and the last one stays, or one command is sent and becomes the
last one. -/
inductive CmdEffect (s t : State) : Prop where
  | quiet : t.uartTx = s.uartTx → t.lastCmd = s.lastCmd →
      (t.isWaitingAck = true → s.isWaitingAck = true) → CmdEffect s t
  | sent (m : TxMsg) : t.uartTx = s.uartTx ++ [m] → t.lastCmd = m.msg.cmd → CmdEffect s t

theorem CmdEffect.of_some {u : State} (h : some u = some t) (hu : CmdEffect s u) :
    CmdEffect s t :=
  Option.some.inj h ▸ hu

theorem CmdEffect.sendLed {u : State} (h : sendCmdLedCtrlInternal u = some t)
    (htx : u.uartTx = s.uartTx) : CmdEffect s t := by
  rw [sendCmdLedCtrlInternal_eq_some h]
  exact .sent _ (by rw [← htx]; rfl) rfl

theorem CmdEffect.sendCfg {u : State} (h : sendCmdCfgInternal u = some t) (hu : CmdEffect s u)
    (htx : u.uartTx = s.uartTx) : CmdEffect s t := by
  obtain ⟨-, -, rfl | ⟨-, rfl⟩⟩ := sendCmdCfgInternal_eq_some h
  · exact hu
  · exact .sent _ (by rw [← htx]; rfl) rfl

theorem cmdEffect_handleSig {sig : Sig} (h : handleSig sig s = some t) : CmdEffect s t := by
  have hno : false = true → s.isWaitingAck = true := fun h => absurd h Bool.false_ne_true
  cases sig with
  | nrf52Rebooted =>
    rw [← Option.some.inj h]
    simp only [onSigNrf52Rebooted]
    split
    · exact .quiet rfl rfl hno
    · split <;> exact .quiet rfl rfl hno
  | nrf52Configured => exact .of_some h (.quiet rfl rfl id)
  | nrf52AckLedCtrl =>
    simp only [handleSig, onSyncAckLedCtrl] at h
    split at h
    · exact CmdEffect.sendCfg h (.quiet rfl rfl hno) rfl
    · exact .of_some h (.quiet rfl rfl hno)
  | nrf52AckCfg =>
    simp only [handleSig, onSyncAckCfg] at h
    split at h
    · exact CmdEffect.sendLed h rfl
    · exact .of_some h (.quiet rfl rfl hno)
  | nrf52AckTimeout =>
    simp only [handleSig, onSyncAckTimeout] at h
    split at h
    · exact .of_some h (.quiet rfl rfl hno)
    · split at h
      · exact CmdEffect.sendCfg h (.quiet rfl rfl hno) rfl
      · split at h
        · exact CmdEffect.sendLed h rfl
        · exact .of_some h (.quiet rfl rfl hno)
  | nrf52CfgUpdate =>
    simp only [handleSig, onSigNrf52CfgUpdate] at h
    split at h
    · exact CmdEffect.sendCfg h (.quiet rfl rfl id) rfl
    · exact .of_some h (.quiet rfl rfl id)
  | nrf52HwResetOff => exact .of_some h (.quiet rfl rfl id)
  | nrf52CfgReqTimeout => exact .of_some h (.quiet rfl rfl hno)

/-- Every event but an ACK. -/
theorem cmdEffect_of_step {ev : Event} (hev : ∀ ack, ev ≠ .recvAck ack)
    (h : gatewayStep s ev = some t) : CmdEffect s t := by
  cases ev with
  | cfgUpdate scan filter => exact .of_some h (.quiet rfl rfl id)
  | sendLedCtrl ms =>
    simp only [gatewayStep, step, sendLedCtrl] at h
    split at h
    · exact CmdEffect.sendLed h rfl
    · exact .of_some h (.quiet rfl rfl id)
  | raise sig => exact .of_some h (.quiet rfl rfl id)
  | handle sig =>
    simp only [gatewayStep, step] at h
    split at h
    · have heffect := cmdEffect_handleSig h
      cases heffect with
      | quiet htx hlast hwait => exact .quiet htx hlast hwait
      | sent m htx hlast => exact .sent m htx hlast
    · exact absurd h (by simp)
  | ackTimerFires =>
    simp only [gatewayStep, step] at h
    split at h
    · exact .of_some h (.quiet rfl rfl id)
    · exact absurd h (by simp)
  | resetTimerFires =>
    simp only [gatewayStep, step] at h
    split at h
    · exact .of_some h (.quiet rfl rfl id)
    · exact absurd h (by simp)
  | cfgReqTimerFires =>
    simp only [gatewayStep, step] at h
    split at h
    · exact .of_some h (.quiet rfl rfl id)
    · exact absurd h (by simp)
  | recvAck ack => exact absurd rfl (hev ack)

/-! ## The invariant -/

/-- The last command is the one that is awaited until the first ACK comes in. -/
structure LastCmd (w : Watch) : Prop where
  last : w.state.lastCmd = if w.answered then .zero else w.awaited
  waiting : w.state.isWaitingAck = true → w.awaited ≠ .zero

theorem UartMsg.cmd_ne_zero (msg : UartMsg) : msg.cmd ≠ .zero := by
  cases msg <;> simp [UartMsg.cmd]

theorem onAsyncAck_lastCmd (ack : RxAck) (s : State) :
    (onAsyncAck ack s).lastCmd = .zero ∧ (onAsyncAck ack s).isWaitingAck = s.isWaitingAck := by
  unfold onAsyncAck
  simp only
  split
  · exact ⟨rfl, rfl⟩
  · split
    · split <;> exact ⟨rfl, rfl⟩
    · split <;> exact ⟨rfl, rfl⟩
    · exact ⟨rfl, rfl⟩

theorem LastCmd.step {w v : Watch} {ev : Event} (h : LastCmd w)
    (hstep : watchStep w ev = some v) : LastCmd v := by
  obtain ⟨t, ht, rfl⟩ := Option.map_eq_some_iff.mp hstep
  by_cases hev : ∃ ack, ev = .recvAck ack
  · obtain ⟨ack, rfl⟩ := hev
    obtain ⟨hlast, hwait⟩ := onAsyncAck_lastCmd ack w.state
    rw [← Option.some.inj ht]
    exact ⟨hlast, fun hw => h.waiting (hwait.symm.trans hw)⟩
  · have hev' : ∀ ack, ev ≠ .recvAck ack := fun ack heq => hev ⟨ack, heq⟩
    have hnext : LastCmd (if t.uartTx = w.state.uartTx then ⟨t, w.awaited, w.answered⟩
        else ⟨t, lastSent t, false⟩) := by
      cases cmdEffect_of_step hev' ht with
      | quiet htx hlast hwait =>
        rw [if_pos htx]
        exact ⟨hlast.trans h.last, fun hw => h.waiting (hwait hw)⟩
      | sent m htx hlast =>
        have hsent : lastSent t = m.msg.cmd := by
          simp [lastSent, htx]
        rw [if_neg (by simp [htx]), hsent]
        exact ⟨hlast, fun _ => m.msg.cmd_ne_zero⟩
    cases ev with
    | recvAck ack => exact absurd rfl (hev' ack)
    | _ => exact hnext

theorem lastCmd_of_reachable {manualResetMode : Bool} {w : Watch}
    (h : (watchSystem manualResetMode).Reachable w) : LastCmd w := by
  refine System.ReachableVia.invariant (P := LastCmd) ?_
    (fun u ev v _ hu _ hstep => hu.step hstep) h
  rintro u ⟨⟨scan, filter, radio, hinit⟩, hawaited, hanswered⟩
  refine ⟨?_, fun hw => ?_⟩
  · rw [hinit, hawaited, hanswered]
    rfl
  · rw [hinit] at hw
    exact absurd hw Bool.false_ne_true

/-! ## The property -/

/-- The signal that is sent for the ACK of a command. -/
def ackSig : UartCmd → Option Sig
  | .setAll => some .nrf52AckCfg
  | .ledCtrl => some .nrf52AckLedCtrl
  | .zero => none
  | .other _ => none

/-- **The property**: while a command is awaited and its time is not over, its ACK with status 0
leaves its signal pending; and an ACK of another command changes nothing. -/
def AckMatched (w : Watch) (ack : RxAck) : Prop :=
  (w.state.isWaitingAck = true → w.state.timerAckTimeout = true → ack.cmd = w.awaited →
    ack.state = 0 → ∀ sig, ackSig ack.cmd = some sig → sig ∈ (onAsyncAck ack w.state).pending) ∧
  (w.state.isWaitingAck = true → ack.cmd ≠ w.awaited → onAsyncAck ack w.state = w.state)

/-- **The condition**: the successful ACK of an awaited command is the first ACK since the
command was sent, or the signal of an earlier one is still pending; and an ACK of another
command is not the first one. -/
def AckInOrder (w : Watch) (ack : RxAck) : Prop :=
  (w.state.isWaitingAck = true → w.state.timerAckTimeout = true → ack.cmd = w.awaited →
    ack.state = 0 →
      w.answered = false ∨ ∀ sig, ackSig ack.cmd = some sig → sig ∈ w.state.pending) ∧
  (w.state.isWaitingAck = true → ack.cmd ≠ w.awaited → w.answered = true)

theorem onAsyncAck_of_ne {ack : RxAck} (h : s.lastCmd ≠ ack.cmd) :
    onAsyncAck ack s = { s with lastCmd := .zero } := by
  simp only [onAsyncAck, if_pos h]

/-- The ACK of the last command raises its signal. -/
theorem mem_pending_of_lastCmd {ack : RxAck} {sig : Sig} (h : s.lastCmd = ack.cmd)
    (hstate : ack.state = 0) (hsig : ackSig ack.cmd = some sig) :
    sig ∈ (onAsyncAck ack s).pending := by
  simp only [onAsyncAck, h, ne_eq, not_true_eq_false, if_false]
  cases hcmd : ack.cmd with
  | zero =>
    rw [hcmd] at hsig
    cases hsig
  | other c =>
    rw [hcmd] at hsig
    cases hsig
  | setAll =>
    rw [hcmd] at hsig
    simp only [if_pos hstate, ← Option.some.inj hsig]
    exact Finset.mem_insert_self _ _
  | ledCtrl =>
    rw [hcmd] at hsig
    simp only [if_pos hstate, ← Option.some.inj hsig]
    exact Finset.mem_insert_self _ _

/-- **When ACKs are matched.**  In every state that is reached, and for every ACK. -/
theorem ackMatched_iff {manualResetMode : Bool} {w : Watch}
    (h : (watchSystem manualResetMode).Reachable w) (ack : RxAck) :
    AckMatched w ack ↔ AckInOrder w ack := by
  obtain ⟨hlast, hwaiting⟩ := lastCmd_of_reachable h
  refine and_congr ?_ ?_
  · refine forall_congr' fun hw => forall_congr' fun _ => forall_congr' fun hcmd =>
      forall_congr' fun hstate => ?_
    cases hanswered : w.answered with
    | false =>
      rw [hanswered, if_neg Bool.false_ne_true] at hlast
      refine iff_of_true (fun sig hsig => ?_) (.inl rfl)
      exact mem_pending_of_lastCmd (hlast.trans hcmd.symm) hstate hsig
    | true =>
      rw [hanswered, if_pos rfl] at hlast
      have hne : w.state.lastCmd ≠ ack.cmd := by
        rw [hlast, hcmd]
        exact (hwaiting hw).symm
      rw [onAsyncAck_of_ne hne]
      simp
  · refine forall_congr' fun hw => forall_congr' fun hcmd => ?_
    cases hanswered : w.answered with
    | false =>
      rw [hanswered, if_neg Bool.false_ne_true] at hlast
      refine iff_of_false (fun heq => ?_) Bool.false_ne_true
      have hzero := congrArg State.lastCmd heq
      rw [(onAsyncAck_lastCmd ack w.state).1, hlast] at hzero
      exact hwaiting hw hzero.symm
    | true =>
      rw [hanswered, if_pos rfl] at hlast
      refine iff_of_true ?_ rfl
      have hstay : { w.state with lastCmd := .zero } = w.state := by
        rw [← hlast]
      by_cases hzero : ack.cmd = .zero
      · simp only [onAsyncAck, hlast, hzero, ne_eq, not_true_eq_false, if_false]
        exact hstay
      · rw [onAsyncAck_of_ne (hlast ▸ Ne.symm hzero), hstay]

/-! ## A late ACK -/

/-- The settings are sent to the radio. -/
def sendCfgRun : List Event :=
  [.cfgUpdate ⟨true, true, false, true, true, true, false⟩ ⟨0x499, false⟩, .handle .nrf52CfgUpdate]

theorem watchSystem_init : (watchSystem false).init
    ⟨init ⟨false, true, false, true, true, true, false⟩ ⟨0x499, true⟩ false none, .zero, false⟩ :=
  ⟨⟨_, _, _, rfl⟩, rfl, rfl⟩

/-- The first ACK after the settings have been sent. -/
theorem ackMatched_sendCfgRun :
    ∃ w, (w.state.isWaitingAck && decide (w.awaited = .setAll)) = true ∧
      AckMatched w ⟨.setAll, 0, 0⟩ := by
  obtain ⟨w, hw, hp⟩ := System.exists_reachable_of_run watchSystem_init sendCfgRun
    (fun w => w.state.isWaitingAck && decide (w.awaited = .setAll) && !w.answered) (by decide)
  simp only [Bool.and_eq_true, Bool.not_eq_true', decide_eq_true_eq] at hp
  refine ⟨w, by simp [hp.1.1, hp.1.2], (ackMatched_iff hw _).mpr ⟨fun _ _ _ _ => .inl hp.2, ?_⟩⟩
  exact fun _ hne => absurd hp.1.2.symm hne

/-- **The late ACK of a `LED_CTRL` hides the ACK of the settings**: it changes the state although
it is not the ACK that is awaited, and the one that is awaited raises no signal after it. -/
theorem late_ack_hides_ack :
    (∃ w, (watchSystem false).Reachable w ∧ ¬ AckMatched w ⟨.ledCtrl, 0, 0⟩) ∧
      ∃ w, (watchSystem false).Reachable w ∧ ¬ AckMatched w ⟨.setAll, 0, 0⟩ := by
  constructor
  · obtain ⟨w, hw, hp⟩ := System.exists_reachable_of_run watchSystem_init sendCfgRun
      (fun w => w.state.isWaitingAck && decide (w.awaited = .setAll) &&
        decide (w.state.lastCmd = .setAll)) (by decide)
    simp only [Bool.and_eq_true, decide_eq_true_eq] at hp
    refine ⟨w, hw, fun hmatched => ?_⟩
    have heq := congrArg State.lastCmd (hmatched.2 hp.1.1 (by simp [hp.1.2]))
    rw [(onAsyncAck_lastCmd _ w.state).1, hp.2] at heq
    cases heq
  · obtain ⟨w, hw, hp⟩ := System.exists_reachable_of_run watchSystem_init
      (sendCfgRun ++ [.recvAck ⟨.ledCtrl, 0, 0⟩])
      (fun w => w.state.isWaitingAck && w.state.timerAckTimeout && decide (w.awaited = .setAll) &&
        decide (.nrf52AckCfg ∉ (onAsyncAck ⟨.setAll, 0, 0⟩ w.state).pending)) (by decide)
    simp only [Bool.and_eq_true, decide_eq_true_eq] at hp
    obtain ⟨⟨⟨hwait, htimer⟩, hawaited⟩, hlost⟩ := hp
    exact ⟨w, hw, fun hmatched =>
      hlost (hmatched.1 hwait htimer hawaited.symm rfl .nrf52AckCfg rfl)⟩

end AdvPostNrf52
end RuuviGateway
