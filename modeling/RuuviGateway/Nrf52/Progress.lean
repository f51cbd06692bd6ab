import RuuviGateway.Nrf52.Model

/-!
# The configuration process goes on

The gateway side of `adv_post_nrf52.c` alone: the UART is replaced by a radio that does anything.
An ACK of any command code and status may come in at any time, commands may be lost, and any
signal of the task may be raised at any time, so that a stale or repeated one is covered too.

As long as the radio is not configured and a configuration is ready, something is under way that
will lead to a new `SET_ALL` (`UnderWay`).  The chain is this.  While `flag_cfg_required` is set,
the task waits for an ACK, and as long as it waits, the ACK timer is running or its signal is
pending.  The flag is taken back by three handlers.  One has configured the radio, one has asked
for the configuration again, and the last one has started a reset, which ends when the radio
reports its reboot, and begins anew if it does not.
-/

namespace RuuviGateway
namespace AdvPostNrf52

open TransitionSystem

variable {s t : State}

/-! ## The gateway with any radio -/

/-- What happens to the gateway side. -/
inductive Event where
  /-- `adv_post_nrf52_cfg_update` with a new configuration. -/
  | cfgUpdate (scan : GwCfgScan) (filter : GwCfgFilter)
  /-- `adv_post_nrf52_send_led_ctrl`. -/
  | sendLedCtrl (timeIntervalMs : UInt16)
  /-- A signal becomes pending, as `NRF52_REBOOTED` does when the radio has rebooted. -/
  | raise (sig : Sig)
  /-- The task takes one of the pending signals. -/
  | handle (sig : Sig)
  | ackTimerFires
  | resetTimerFires
  | cfgReqTimerFires
  /-- `uart_rx_task` receives an ACK. -/
  | recvAck (ack : RxAck)
  deriving DecidableEq, Repr

/-- One event. -/
def gatewayStep (s : State) : Event → Option State
  | .cfgUpdate scan filter => step s (.cfgUpdate scan filter)
  | .sendLedCtrl t => step s (.sendLedCtrl t)
  | .raise sig => some (sendSig sig s)
  | .handle sig => step s (.handle sig)
  | .ackTimerFires => step s .ackTimerFires
  | .resetTimerFires => step s .resetTimerFires
  | .cfgReqTimerFires => step s .cfgReqTimerFires
  | .recvAck ack => some (onAsyncAck ack s)

/-- The gateway with any radio, from `adv_post_nrf52_init` on; the mode is
`nrf52fw_get_manual_reset_mode()`. -/
def gatewaySystem (manualResetMode : Bool) : System State Event where
  init s := ∃ scan filter radio, s = init scan filter manualResetMode radio
  step := gatewayStep

/-! ## The invariant -/

/-- A reset of the radio is under way. -/
def Resetting (s : State) : Prop :=
  s.timerReset = true ∨ s.timerCfgReqTimeout = true ∨ .nrf52HwResetOff ∈ s.pending ∨
    .nrf52CfgReqTimeout ∈ s.pending

/-- What keeps the configuration process going. -/
structure Progress (s : State) : Prop where
  manual : s.manualResetMode = false
  unconfigured : s.flagCfgRequired = true → s.flagNrf52Configured = false
  waits : s.flagCfgRequired = true → s.isWaitingAck = true
  timed : s.isWaitingAck = true → s.timerAckTimeout = true ∨ .nrf52AckTimeout ∈ s.pending
  asked : s.flagCfgReady = true → s.flagNrf52Configured = false →
    s.flagCfgRequired = true ∨ .nrf52CfgUpdate ∈ s.pending ∨ Resetting s

/-- The part of the state that the invariant reads, except for the pending signals. -/
structure SameFlags (s t : State) : Prop where
  manual : t.manualResetMode = s.manualResetMode
  ready : t.flagCfgReady = s.flagCfgReady
  configured : t.flagNrf52Configured = s.flagNrf52Configured
  required : t.flagCfgRequired = s.flagCfgRequired
  waiting : t.isWaitingAck = s.isWaitingAck
  ackTimer : t.timerAckTimeout = s.timerAckTimeout
  resetTimer : t.timerReset = s.timerReset
  cfgReqTimer : t.timerCfgReqTimeout = s.timerCfgReqTimeout

theorem Resetting.mono (h : Resetting s) (hr : t.timerReset = s.timerReset)
    (hc : t.timerCfgReqTimeout = s.timerCfgReqTimeout) (hp : s.pending ⊆ t.pending) :
    Resetting t := by
  rcases h with h | h | h | h
  · exact .inl (hr.trans h)
  · exact .inr (.inl (hc.trans h))
  · exact .inr (.inr (.inl (hp h)))
  · exact .inr (.inr (.inr (hp h)))

/-- Signals that become pending only help. -/
theorem Progress.frame (h : Progress s) (hf : SameFlags s t) (hp : s.pending ⊆ t.pending) :
    Progress t where
  manual := hf.manual.trans h.manual
  unconfigured hr := hf.configured.trans (h.unconfigured (hf.required.symm.trans hr))
  waits hr := hf.waiting.trans (h.waits (hf.required.symm.trans hr))
  timed hw := by
    rcases h.timed (hf.waiting.symm.trans hw) with ht | ht
    · exact .inl (hf.ackTimer.trans ht)
    · exact .inr (hp ht)
  asked hready hconf := by
    rcases h.asked (hf.ready.symm.trans hready) (hf.configured.symm.trans hconf) with ha | ha | ha
    · exact .inl (hf.required.trans ha)
    · exact .inr (.inl (hp ha))
    · exact .inr (.inr (ha.mono hf.resetTimer hf.cfgReqTimer hp))

/-- A command that is sent starts the ACK timer. -/
theorem Progress.of_send {msg : UartMsg} {cmd : UartCmd} (hmanual : s.manualResetMode = false)
    (hunconf : s.flagCfgRequired = true → s.flagNrf52Configured = false)
    (hasked : s.flagCfgReady = true → s.flagNrf52Configured = false →
      s.flagCfgRequired = true ∨ .nrf52CfgUpdate ∈ s.pending ∨ Resetting s) :
    Progress (uartSend msg (setWaitingAck cmd s)) where
  manual := hmanual
  unconfigured := hunconf
  waits := fun _ => rfl
  timed := fun _ => .inl rfl
  asked := hasked

/-- Where the settings may be sent, they are. -/
theorem sendCmdCfgInternal_eq (hw : s.isWaitingAck = false) (hc : s.flagNrf52Configured = false)
    (hr : s.flagCfgRequired = true) (hm : s.manualResetMode = false) :
    sendCmdCfgInternal s = some (uartSend (.setAll s.cached) (setWaitingAck .setAll s)) := by
  simp [sendCmdCfgInternal, hw, hc, hr, hm]

theorem sendCmdLedCtrlInternal_eq (hw : s.isWaitingAck = false)
    (hi : s.ledCtrlTimeIntervalMs ≠ ledCtrlTimeIntervalInvalid) :
    sendCmdLedCtrlInternal s =
      some (uartSend (.ledCtrl s.ledCtrlTimeIntervalMs) (setWaitingAck .ledCtrl s)) := by
  simp [sendCmdLedCtrlInternal, hw, hi]

/-! ## The handlers -/

/-- What is left of the invariant when the signal to be handled has been taken: all that the
handlers other than the one of the signal rely on. -/
structure Taken (sig : Sig) (s : State) : Prop where
  manual : s.manualResetMode = false
  unconfigured : s.flagCfgRequired = true → s.flagNrf52Configured = false
  waits : s.flagCfgRequired = true → s.isWaitingAck = true
  timed : sig ≠ .nrf52AckTimeout →
    s.isWaitingAck = true → s.timerAckTimeout = true ∨ .nrf52AckTimeout ∈ s.pending
  asked : sig ≠ .nrf52CfgUpdate → sig ≠ .nrf52HwResetOff → sig ≠ .nrf52CfgReqTimeout →
    s.flagCfgReady = true → s.flagNrf52Configured = false →
      s.flagCfgRequired = true ∨ .nrf52CfgUpdate ∈ s.pending ∨ Resetting s

theorem Progress.take (h : Progress s) (sig : Sig) :
    Taken sig { s with pending := s.pending.erase sig } where
  manual := h.manual
  unconfigured := h.unconfigured
  waits := h.waits
  timed hne hw := by
    rcases h.timed hw with ht | ht
    · exact .inl ht
    · exact .inr (Finset.mem_erase.mpr ⟨Ne.symm hne, ht⟩)
  asked hupdate hoff hreq hready hconf := by
    rcases h.asked hready hconf with ha | ha | ha | ha | ha | ha
    · exact .inl ha
    · exact .inr (.inl (Finset.mem_erase.mpr ⟨Ne.symm hupdate, ha⟩))
    · exact .inr (.inr (.inl ha))
    · exact .inr (.inr (.inr (.inl ha)))
    · exact .inr (.inr (.inr (.inr (.inl (Finset.mem_erase.mpr ⟨Ne.symm hoff, ha⟩)))))
    · exact .inr (.inr (.inr (.inr (.inr (Finset.mem_erase.mpr ⟨Ne.symm hreq, ha⟩)))))

/-- A reset takes the flags back and starts its timer. -/
theorem progress_reset (hmanual : s.manualResetMode = false) : Progress (reset s) where
  manual := hmanual
  unconfigured := fun h => absurd h Bool.false_ne_true
  waits := fun h => absurd h Bool.false_ne_true
  timed := fun h => absurd h Bool.false_ne_true
  asked := fun _ _ => .inr (.inr (.inl rfl))

theorem progress_rebooted (h : Taken .nrf52Rebooted s) : Progress (onSigNrf52Rebooted s) := by
  have hmanual := h.manual
  simp only [onSigNrf52Rebooted, hmanual, Bool.false_eq_true, if_false]
  split
  · exact ⟨rfl, fun h => absurd h Bool.false_ne_true, fun h => absurd h Bool.false_ne_true,
      fun h => absurd h Bool.false_ne_true, fun _ _ => .inr (.inl (Finset.mem_insert_self _ _))⟩
  · rename_i hready
    exact ⟨rfl, fun h => absurd h Bool.false_ne_true, fun h => absurd h Bool.false_ne_true,
      fun h => absurd h Bool.false_ne_true, fun h => absurd h hready⟩

theorem progress_cfgUpdate (h : Taken .nrf52CfgUpdate s) :
    ∃ t, onSigNrf52CfgUpdate s = some t ∧ Progress t := by
  simp only [onSigNrf52CfgUpdate]
  by_cases hw : s.isWaitingAck = true
  · rw [if_neg (by simp [hw])]
    refine ⟨_, rfl, h.manual, fun _ => rfl, fun _ => hw, fun _ => ?_, fun _ _ => .inl rfl⟩
    exact h.timed (by decide) hw
  · rw [if_pos (by simpa using hw)]
    refine ⟨_, sendCmdCfgInternal_eq (by simpa using hw) rfl rfl h.manual, ?_⟩
    exact .of_send h.manual (fun _ => rfl) fun _ _ => .inl rfl

theorem progress_ackLedCtrl (h : Taken .nrf52AckLedCtrl s) :
    ∃ t, onSyncAckLedCtrl s = some t ∧ Progress t := by
  have hasked := h.asked (by decide) (by decide) (by decide)
  simp only [onSyncAckLedCtrl]
  by_cases hr : s.flagCfgRequired = true
  · rw [if_pos hr]
    refine ⟨_, sendCmdCfgInternal_eq rfl (h.unconfigured hr) hr h.manual, ?_⟩
    exact .of_send h.manual h.unconfigured hasked
  · rw [if_neg hr]
    exact ⟨_, rfl, h.manual, h.unconfigured, fun h => absurd h hr,
      fun h => absurd h Bool.false_ne_true, hasked⟩

theorem progress_ackCfg (h : Taken .nrf52AckCfg s) :
    ∃ t, onSyncAckCfg s = some t ∧ Progress t := by
  simp only [onSyncAckCfg]
  by_cases hi : s.ledCtrlTimeIntervalMs ≠ ledCtrlTimeIntervalInvalid
  · rw [if_pos hi]
    refine ⟨_, sendCmdLedCtrlInternal_eq rfl hi, ?_⟩
    exact .of_send h.manual (fun h => absurd h Bool.false_ne_true)
      fun _ h => absurd h.symm Bool.false_ne_true
  · rw [if_neg hi]
    exact ⟨_, rfl, h.manual, fun h => absurd h Bool.false_ne_true,
      fun h => absurd h Bool.false_ne_true, fun h => absurd h Bool.false_ne_true,
      fun _ h => absurd h.symm Bool.false_ne_true⟩

theorem progress_ackTimeout (h : Taken .nrf52AckTimeout s) :
    ∃ t, onSyncAckTimeout s = some t ∧ Progress t := by
  have hasked := h.asked (by decide) (by decide) (by decide)
  simp only [onSyncAckTimeout]
  by_cases hcnt : noAckMaxCnt ≤ s.ackTimeoutCnt + 1
  · rw [if_pos hcnt]
    exact ⟨_, rfl, progress_reset h.manual⟩
  · rw [if_neg hcnt]
    by_cases hr : s.flagCfgRequired = true
    · rw [if_pos hr]
      refine ⟨_, sendCmdCfgInternal_eq rfl (h.unconfigured hr) hr h.manual, ?_⟩
      exact .of_send h.manual h.unconfigured hasked
    · rw [if_neg hr]
      by_cases hi : s.ledCtrlTimeIntervalMs ≠ ledCtrlTimeIntervalInvalid
      · rw [if_pos hi]
        refine ⟨_, sendCmdLedCtrlInternal_eq rfl hi, ?_⟩
        exact .of_send h.manual h.unconfigured hasked
      · rw [if_neg hi]
        exact ⟨_, rfl, h.manual, h.unconfigured, fun h => absurd h hr,
          fun h => absurd h Bool.false_ne_true, hasked⟩

theorem progress_hwResetOff (h : Taken .nrf52HwResetOff s) :
    Progress (onSigNrf52HwResetOff s) where
  manual := h.manual
  unconfigured := h.unconfigured
  waits := h.waits
  timed := fun hw => (h.timed (by decide) hw).imp_right (Finset.mem_insert_of_mem ·)
  asked := fun _ _ => .inr (.inr (.inr (.inl rfl)))

/-- **Every handler returns and keeps the process going.** -/
theorem Progress.handleSig (sig : Sig) (h : Progress s) :
    ∃ t, handleSig sig { s with pending := s.pending.erase sig } = some t ∧ Progress t := by
  have htaken := h.take sig
  cases sig with
  | nrf52Rebooted => exact ⟨_, rfl, progress_rebooted htaken⟩
  | nrf52Configured =>
    refine ⟨_, rfl, htaken.manual, htaken.unconfigured, htaken.waits, htaken.timed (by decide), ?_⟩
    exact htaken.asked (by decide) (by decide) (by decide)
  | nrf52AckLedCtrl => exact progress_ackLedCtrl htaken
  | nrf52AckCfg => exact progress_ackCfg htaken
  | nrf52AckTimeout => exact progress_ackTimeout htaken
  | nrf52CfgUpdate => exact progress_cfgUpdate htaken
  | nrf52HwResetOff => exact ⟨_, rfl, progress_hwResetOff htaken⟩
  | nrf52CfgReqTimeout => exact ⟨_, rfl, progress_reset htaken.manual⟩

/-! ## One event -/

theorem Progress.init (scan : GwCfgScan) (filter : GwCfgFilter) (radio : Option SetAll) :
    Progress (init scan filter false radio) :=
  progress_reset rfl

theorem Progress.raise (h : Progress s) (sig : Sig) : Progress (sendSig sig s) :=
  h.frame ⟨rfl, rfl, rfl, rfl, rfl, rfl, rfl, rfl⟩ (Finset.subset_insert _ _)

/-- An ACK may raise a signal; it changes nothing else that the invariant reads. -/
theorem Progress.recvAck (h : Progress s) (ack : RxAck) : Progress (onAsyncAck ack s) := by
  have hzero : Progress { s with lastCmd := .zero } :=
    h.frame ⟨rfl, rfl, rfl, rfl, rfl, rfl, rfl, rfl⟩ (Finset.Subset.refl _)
  unfold onAsyncAck
  simp only
  split
  · exact hzero
  · split
    · split
      · exact hzero.raise .nrf52AckLedCtrl
      · exact hzero
    · split
      · exact h.frame ⟨rfl, rfl, rfl, rfl, rfl, rfl, rfl, rfl⟩ (Finset.subset_insert _ _)
      · exact hzero
    · exact hzero

theorem Progress.sendLedCtrl {timeIntervalMs : UInt16} (h : Progress s)
    (hstep : sendLedCtrl timeIntervalMs s = some t) : Progress t := by
  simp only [AdvPostNrf52.sendLedCtrl] at hstep
  split at hstep
  · unfold sendCmdLedCtrlInternal at hstep
    split at hstep
    · exact absurd hstep (by simp)
    · rw [← Option.some.inj hstep]
      exact .of_send h.manual h.unconfigured h.asked
  · rw [← Option.some.inj hstep]
    exact h.frame ⟨rfl, rfl, rfl, rfl, rfl, rfl, rfl, rfl⟩ (Finset.Subset.refl _)

/-- **One event keeps the process going.** -/
theorem Progress.step {ev : Event} (h : Progress s) (hstep : gatewayStep s ev = some t) :
    Progress t := by
  cases ev with
  | cfgUpdate scan filter =>
    rw [← Option.some.inj hstep]
    exact ⟨h.manual, fun _ => rfl, h.waits,
      fun hw => (h.timed hw).imp_right (Finset.mem_insert_of_mem ·),
      fun _ _ => .inr (.inl (Finset.mem_insert_self _ _))⟩
  | sendLedCtrl ms => exact h.sendLedCtrl hstep
  | raise sig => exact Option.some.inj hstep ▸ h.raise sig
  | handle sig =>
    simp only [gatewayStep, AdvPostNrf52.step] at hstep
    split at hstep
    · obtain ⟨u, hu, hprogress⟩ := h.handleSig sig
      rw [hu] at hstep
      exact Option.some.inj hstep ▸ hprogress
    · exact absurd hstep (by simp)
  | ackTimerFires =>
    simp only [gatewayStep, AdvPostNrf52.step] at hstep
    obtain ⟨-, rfl⟩ := Option.ite_some_none_eq_some.mp hstep
    refine ⟨h.manual, h.unconfigured, h.waits, fun _ => .inr (Finset.mem_insert_self _ _), ?_⟩
    intro hready hconf
    exact (h.asked hready hconf).imp_right
      (Or.imp (Finset.mem_insert_of_mem ·) (·.mono rfl rfl (Finset.subset_insert _ _)))
  | resetTimerFires =>
    simp only [gatewayStep, AdvPostNrf52.step] at hstep
    obtain ⟨-, rfl⟩ := Option.ite_some_none_eq_some.mp hstep
    refine ⟨h.manual, h.unconfigured, h.waits,
      fun hw => (h.timed hw).imp_right (Finset.mem_insert_of_mem ·), fun _ _ => ?_⟩
    exact .inr (.inr (.inr (.inr (.inl (Finset.mem_insert_self _ _)))))
  | cfgReqTimerFires =>
    simp only [gatewayStep, AdvPostNrf52.step] at hstep
    obtain ⟨-, rfl⟩ := Option.ite_some_none_eq_some.mp hstep
    refine ⟨h.manual, h.unconfigured, h.waits,
      fun hw => (h.timed hw).imp_right (Finset.mem_insert_of_mem ·), fun _ _ => ?_⟩
    exact .inr (.inr (.inr (.inr (.inr (Finset.mem_insert_self _ _)))))
  | recvAck ack => exact Option.some.inj hstep ▸ h.recvAck ack

/-! ## Runs -/

theorem progress_of_reachable (h : (gatewaySystem false).Reachable s) : Progress s := by
  refine System.ReachableVia.invariant (P := Progress) ?_
    (fun u ev v _ hu _ hstep => hu.step hstep) h
  rintro u ⟨scan, filter, radio, rfl⟩
  exact Progress.init scan filter radio

/-- What is under way while the radio is to be configured. -/
def UnderWay (s : State) : Prop :=
  (.nrf52CfgUpdate ∈ s.pending ∨ .nrf52AckCfg ∈ s.pending ∨ .nrf52Rebooted ∈ s.pending) ∨
  (s.flagCfgRequired = true ∧ (s.timerAckTimeout = true ∨ .nrf52AckTimeout ∈ s.pending ∨
    .nrf52AckCfg ∈ s.pending ∨ .nrf52AckLedCtrl ∈ s.pending)) ∨
  (s.timerReset = true ∨ s.timerCfgReqTimeout = true ∨ .nrf52HwResetOff ∈ s.pending ∨
    .nrf52CfgReqTimeout ∈ s.pending)

/-- **The configuration process never gets stuck.**  Whatever the radio does, as long as a
configuration is ready and the radio is not configured, something is under way; and no handler
of a pending signal runs into an assertion. -/
theorem configuration_underWay (h : (gatewaySystem false).Reachable s) :
    (s.flagCfgReady = true → s.flagNrf52Configured = false → UnderWay s) ∧
      ∀ sig ∈ s.pending, (gatewayStep s (.handle sig)).isSome = true := by
  have hprogress := progress_of_reachable h
  constructor
  · intro hready hconf
    rcases hprogress.asked hready hconf with hreq | hupdate | hreset
    · refine .inr (.inl ⟨hreq, ?_⟩)
      exact (hprogress.timed (hprogress.waits hreq)).imp_right .inl
    · exact .inl (.inl hupdate)
    · exact .inr (.inr hreset)
  · intro sig hsig
    obtain ⟨t, ht, -⟩ := hprogress.handleSig sig
    simp only [gatewayStep, AdvPostNrf52.step, if_pos hsig, ht, Option.isSome_some]

/-- A configuration becomes ready while the radio is held in reset. -/
def cfgUpdateAfterInit : State :=
  cfgUpdate ⟨true, true, false, true, true, true, false⟩ ⟨0x499, false⟩
    (init ⟨false, true, false, true, true, true, false⟩ ⟨0x499, true⟩ false none)

theorem underWay_cfgUpdateAfterInit :
    UnderWay cfgUpdateAfterInit ∧
      (gatewayStep cfgUpdateAfterInit (.handle .nrf52CfgUpdate)).isSome = true := by
  have hreach : (gatewaySystem false).Reachable cfgUpdateAfterInit :=
    .step (a := .cfgUpdate _ _) (.init ⟨_, _, none, rfl⟩) rfl
  obtain ⟨hunderWay, hhandle⟩ := configuration_underWay hreach
  exact ⟨hunderWay rfl rfl, hhandle _ (Finset.mem_insert_self _ _)⟩

end AdvPostNrf52
end RuuviGateway
