import RuuviGateway.Nrf52.Model

/-!
# What a signal handler of the nRF52 part can do

Every handler but the one that releases the reset line leaves the radio, the
cached configuration and the UART's return direction alone; it sends at most one
command; and it changes the flags in one of a few ways.  `Handled` says so once,
and `handled_of_handleSig` proves it by looking at the handlers one at a time.
The invariants of `Nrf52.Configured` use nothing else about them.
-/

namespace RuuviGateway
namespace AdvPostNrf52

variable {s t : State}

/-! ## The two functions that send -/

theorem sendCmdLedCtrlInternal_eq_some (h : sendCmdLedCtrlInternal s = some t) :
    t = uartSend (.ledCtrl s.ledCtrlTimeIntervalMs) (setWaitingAck .ledCtrl s) := by
  unfold sendCmdLedCtrlInternal at h
  split at h
  · exact absurd h (by simp)
  · exact (Option.some.inj h).symm

theorem sendCmdCfgInternal_eq_some (h : sendCmdCfgInternal s = some t) :
    s.flagCfgRequired = true ∧ s.flagNrf52Configured = false ∧
      (t = s ∨ s.manualResetMode = false ∧
        t = uartSend (.setAll s.cached) (setWaitingAck .setAll s)) := by
  unfold sendCmdCfgInternal at h
  split at h
  · exact absurd h (by simp)
  · rename_i hassert
    have hflags : s.flagCfgRequired = true ∧ s.flagNrf52Configured = false := by
      simp only [Bool.or_eq_true, Bool.not_eq_true', not_or] at hassert
      exact ⟨by simpa using hassert.2, by simpa using hassert.1.2⟩
    refine ⟨hflags.1, hflags.2, ?_⟩
    split at h
    · exact Or.inl (Option.some.inj h).symm
    · rename_i hmanual
      exact Or.inr ⟨by simpa using hmanual, (Option.some.inj h).symm⟩

/-! ## The effect of a handler -/

/-- The part of the state that a handler does not touch. -/
structure SameLink (s t : State) : Prop where
  scan : t.scan = s.scan
  filter : t.filter = s.filter
  ready : t.flagCfgReady = s.flagCfgReady
  manual : t.manualResetMode = s.manualResetMode
  uartRx : t.uartRx = s.uartRx
  radio : t.radio = s.radio
  epoch : t.epoch = s.epoch
  ackCfgEpoch : t.ackCfgEpoch = s.ackCfgEpoch

theorem SameLink.cached (h : SameLink s t) : t.cached = s.cached := by
  rw [State.cached, State.cached, h.scan, h.filter]

/-- What may be put on the UART: nothing, a `LED_CTRL`, or the cached settings if
`mayCfg` holds. -/
inductive Sent (s : State) (mayCfg : Prop) : List TxMsg → Prop where
  | nothing : Sent s mayCfg []
  | led (timeIntervalMs : UInt16) : Sent s mayCfg [⟨.ledCtrl timeIntervalMs, s.epoch⟩]
  | cfg : mayCfg → s.manualResetMode = false → Sent s mayCfg [⟨.setAll s.cached, s.epoch⟩]

/-- What handling `sig` can do, for every signal except `NRF52_HW_RESET_OFF`. -/
structure Handled (sig : Sig) (s t : State) : Prop where
  link : SameLink s t
  sent : ∃ l, t.uartTx = s.uartTx ++ l ∧
    Sent s (s.flagCfgRequired = true ∨ sig = .nrf52CfgUpdate) l
  required : t.flagCfgRequired = true → s.flagCfgRequired = true ∨ sig = .nrf52CfgUpdate
  configured : t.flagNrf52Configured = true →
    (sig = .nrf52AckCfg ∧ t.flagCfgRequired = false) ∨
      (sig ≠ .nrf52CfgUpdate ∧ s.flagNrf52Configured = true)
  pending : t.pending = s.pending ∨
    (s.flagCfgReady = true ∧ t.pending = insert .nrf52CfgUpdate s.pending)
  rebooted : sig = .nrf52Rebooted → s.flagCfgReady = true → s.manualResetMode = false →
    .nrf52CfgUpdate ∈ t.pending

/-- A handler that sends nothing and leaves the pending signals alone. -/
theorem Handled.of_quiet {sig : Sig} (hlink : SameLink s t) (htx : t.uartTx = s.uartTx)
    (hpend : t.pending = s.pending)
    (hreq : t.flagCfgRequired = true → s.flagCfgRequired = true ∨ sig = .nrf52CfgUpdate)
    (hconf : t.flagNrf52Configured = true →
      (sig = .nrf52AckCfg ∧ t.flagCfgRequired = false) ∨
        (sig ≠ .nrf52CfgUpdate ∧ s.flagNrf52Configured = true))
    (hsig : sig ≠ .nrf52Rebooted) : Handled sig s t where
  link := hlink
  sent := ⟨[], by rw [htx, List.append_nil], .nothing⟩
  required := hreq
  configured := hconf
  pending := Or.inl hpend
  rebooted := fun h => absurd h hsig

/-- Sending a `LED_CTRL` after a quiet handler. -/
theorem Handled.sendLed {sig : Sig} {u : State} (h : Handled sig s u)
    (htx : u.uartTx = s.uartTx) (ht : sendCmdLedCtrlInternal u = some t) : Handled sig s t := by
  rw [sendCmdLedCtrlInternal_eq_some ht]
  refine ⟨⟨h.link.scan, h.link.filter, h.link.ready, h.link.manual, h.link.uartRx, h.link.radio,
    h.link.epoch, h.link.ackCfgEpoch⟩, ⟨_, ?_, .led u.ledCtrlTimeIntervalMs⟩, h.required,
    h.configured, h.pending, h.rebooted⟩
  rw [← h.link.epoch, ← htx]
  rfl

/-- Sending the cached settings after a quiet handler. -/
theorem Handled.sendCfg {sig : Sig} {u : State} (h : Handled sig s u)
    (htx : u.uartTx = s.uartTx) (ht : sendCmdCfgInternal u = some t) : Handled sig s t := by
  obtain ⟨hreq, -, rfl | ⟨hmanual, rfl⟩⟩ := sendCmdCfgInternal_eq_some ht
  · exact h
  · refine ⟨⟨h.link.scan, h.link.filter, h.link.ready, h.link.manual, h.link.uartRx, h.link.radio,
      h.link.epoch, h.link.ackCfgEpoch⟩, ⟨_, ?_, .cfg (h.required hreq) (h.link.manual ▸ hmanual)⟩,
      h.required, h.configured, h.pending, h.rebooted⟩
    rw [← h.link.epoch, ← htx, ← h.link.cached]
    rfl

/-! ## The handlers, one at a time -/

theorem handled_rebooted (s : State) : Handled .nrf52Rebooted s (onSigNrf52Rebooted s) := by
  simp only [onSigNrf52Rebooted]
  split
  · rename_i hmanual
    exact ⟨⟨rfl, rfl, rfl, rfl, rfl, rfl, rfl, rfl⟩, ⟨[], (List.append_nil _).symm, .nothing⟩,
      fun h => absurd h Bool.false_ne_true, fun h => Or.inr ⟨by decide, h⟩, Or.inl rfl,
      fun _ _ h => absurd (h.symm.trans hmanual) Bool.false_ne_true⟩
  · split
    · rename_i hready
      exact ⟨⟨rfl, rfl, rfl, rfl, rfl, rfl, rfl, rfl⟩, ⟨[], (List.append_nil _).symm, .nothing⟩,
        fun h => absurd h Bool.false_ne_true, fun h => Or.inr ⟨by decide, h⟩, Or.inr ⟨hready, rfl⟩,
        fun _ _ _ => Finset.mem_insert_self _ _⟩
    · rename_i hready
      exact ⟨⟨rfl, rfl, rfl, rfl, rfl, rfl, rfl, rfl⟩, ⟨[], (List.append_nil _).symm, .nothing⟩,
        fun h => absurd h Bool.false_ne_true, fun h => Or.inr ⟨by decide, h⟩, Or.inl rfl,
        fun _ h _ => absurd h hready⟩

theorem handled_cfgUpdate (h : onSigNrf52CfgUpdate s = some t) :
    Handled .nrf52CfgUpdate s t := by
  have hquiet : Handled .nrf52CfgUpdate s
      { s with flagNrf52Configured := false, flagCfgRequired := true } :=
    .of_quiet ⟨rfl, rfl, rfl, rfl, rfl, rfl, rfl, rfl⟩ rfl rfl (fun _ => Or.inr rfl)
      (fun h => absurd h Bool.false_ne_true) (by decide)
  simp only [onSigNrf52CfgUpdate] at h
  split at h
  · exact hquiet.sendCfg rfl h
  · exact Option.some.inj h ▸ hquiet

theorem handled_ackLedCtrl (h : onSyncAckLedCtrl s = some t) : Handled .nrf52AckLedCtrl s t := by
  have hquiet : Handled .nrf52AckLedCtrl s
      { s with
        ledCtrlTimeIntervalMs := ledCtrlTimeIntervalInvalid
        ackTimeoutCnt := 0
        timerAckTimeout := false
        isWaitingAck := false } :=
    .of_quiet ⟨rfl, rfl, rfl, rfl, rfl, rfl, rfl, rfl⟩ rfl rfl Or.inl
      (fun h => Or.inr ⟨by decide, h⟩) (by decide)
  simp only [onSyncAckLedCtrl] at h
  split at h
  · exact hquiet.sendCfg rfl h
  · exact Option.some.inj h ▸ hquiet

theorem handled_ackCfg (h : onSyncAckCfg s = some t) : Handled .nrf52AckCfg s t := by
  have hquiet : Handled .nrf52AckCfg s
      { s with
        ackTimeoutCnt := 0
        timerAckTimeout := false
        isWaitingAck := false
        flagCfgRequired := false
        flagNrf52Configured := true } :=
    .of_quiet ⟨rfl, rfl, rfl, rfl, rfl, rfl, rfl, rfl⟩ rfl rfl
      (fun h => absurd h Bool.false_ne_true) (fun _ => Or.inl ⟨rfl, rfl⟩) (by decide)
  simp only [onSyncAckCfg] at h
  split at h
  · exact hquiet.sendLed rfl h
  · exact Option.some.inj h ▸ hquiet

/-- A reset only takes flags back and starts a timer. -/
theorem handled_reset {sig : Sig} (s : State) (hsig : sig ≠ .nrf52Rebooted)
    (hsig' : sig ≠ .nrf52CfgUpdate) : Handled sig s (reset s) :=
  .of_quiet ⟨rfl, rfl, rfl, rfl, rfl, rfl, rfl, rfl⟩ rfl rfl (fun h => absurd h Bool.false_ne_true)
    (fun h => Or.inr ⟨hsig', h⟩) hsig

theorem handled_ackTimeout (h : onSyncAckTimeout s = some t) : Handled .nrf52AckTimeout s t := by
  have hquiet : Handled .nrf52AckTimeout s
      { s with isWaitingAck := false, ackTimeoutCnt := s.ackTimeoutCnt + 1 } :=
    .of_quiet ⟨rfl, rfl, rfl, rfl, rfl, rfl, rfl, rfl⟩ rfl rfl Or.inl
      (fun h => Or.inr ⟨by decide, h⟩) (by decide)
  simp only [onSyncAckTimeout] at h
  split at h
  · rw [← Option.some.inj h]
    exact .of_quiet ⟨rfl, rfl, rfl, rfl, rfl, rfl, rfl, rfl⟩ rfl rfl
      (fun h => absurd h Bool.false_ne_true) (fun h => Or.inr ⟨by decide, h⟩) (by decide)
  · split at h
    · exact hquiet.sendCfg rfl h
    · split at h
      · exact hquiet.sendLed rfl h
      · exact Option.some.inj h ▸ hquiet

/-- **Every handler but the release of the reset line.** -/
theorem handled_of_handleSig {sig : Sig} (hsig : sig ≠ .nrf52HwResetOff)
    (h : handleSig sig s = some t) : Handled sig s t := by
  cases sig with
  | nrf52Rebooted => exact Option.some.inj h ▸ handled_rebooted s
  | nrf52Configured =>
    rw [← Option.some.inj h]
    exact .of_quiet ⟨rfl, rfl, rfl, rfl, rfl, rfl, rfl, rfl⟩ rfl rfl Or.inl
      (fun h => Or.inr ⟨by decide, h⟩) (by decide)
  | nrf52AckLedCtrl => exact handled_ackLedCtrl h
  | nrf52AckCfg => exact handled_ackCfg h
  | nrf52AckTimeout => exact handled_ackTimeout h
  | nrf52CfgUpdate => exact handled_cfgUpdate h
  | nrf52HwResetOff => exact absurd rfl hsig
  | nrf52CfgReqTimeout =>
    exact Option.some.inj h ▸ handled_reset s (by decide) (by decide)

end AdvPostNrf52
end RuuviGateway
