import RuuviGateway.Leds.Task

/-!
# What a signal does

`leds_task_handle_sig_update` takes one colour from the sequence that is shown; it is described
by `shown_of_handleSigUpdate`.  Every other signal may tell the sub-machine something and then
bring an event of `leds_ctrl`, which leaves the machine alone or makes one transition:
`handleSig_cases`.  What is proved about runs of the task uses nothing else about the handlers.
-/

namespace RuuviGateway
namespace Leds

variable {s t : State}

/-! ## One colour -/

/-- What changes when the LEDs take a colour. -/
structure Shown (color : LedsColor) (s t : State) : Prop where
  ctrl : t.ctrl = s.ctrl
  ctrl2 : t.ctrl2 = s.ctrl2
  blinking : t.blinking = s.blinking
  ledsState : t.ledsState = color
  greenLedState : t.greenLedState = decide (color = .green)
  redLed : t.board.redLed =
    if (s.ledsState = .red) = (color = .red) then s.board.redLed else decide (color = .red)
  timerSigUpdate : t.board.timerSigUpdate = s.board.timerSigUpdate
  nrf52Reset : t.board.nrf52Reset = s.board.nrf52Reset
  switchCtrlCnt : t.board.switchCtrlCnt + (if s.ledsState = .red then 1 else 0) =
    s.board.switchCtrlCnt + (if color = .red then 1 else 0)

theorem turnOffRed_eq (s : State) :
    s.turnOffRed =
      if 0 < s.board.switchCtrlCnt then
        some { s with
          board := { s.board with
            redLed := false, switchCtrlCnt := s.board.switchCtrlCnt - 1 } }
      else none := by
  rw [State.turnOffRed, ledsTurnOffRed, gpioSwitchCtrlDeactivate]
  split
  · rfl
  · rfl

theorem shown_of_setColor {color : LedsColor}
    (hgreen : s.greenLedState = decide (s.ledsState = .green))
    (h : setColor color s = some t) : Shown color s t := by
  obtain ⟨ctrl, ctrl2, blinking, ledsState, greenLedState, board⟩ := s
  unfold setColor at h
  cases ledsState <;> cases color <;>
    simp [ledsTransitionFromOff, ledsTransitionFromRed, ledsTransitionFromGreen, turnOffRed_eq,
      State.setGreenLedState, State.turnOnRed, ledsTurnOnRed, gpioSwitchCtrlActivate] at h hgreen
  case red.off | red.green =>
    obtain ⟨hpos, rfl⟩ := h
    constructor <;> simp [hgreen, Nat.sub_add_cancel hpos]
  all_goals
    subst h
    constructor <;> simp [hgreen]

/-- An assertion fails only where the red LED is turned off with nobody using the switch. -/
theorem isSome_setColor (color : LedsColor)
    (hcnt : s.ledsState = .red → 0 < s.board.switchCtrlCnt) :
    (setColor color s).isSome = true := by
  obtain ⟨ctrl, ctrl2, blinking, ledsState, greenLedState, board⟩ := s
  unfold setColor
  cases ledsState <;> cases color <;>
    simp_all [ledsTransitionFromOff, ledsTransitionFromRed, ledsTransitionFromGreen,
      turnOffRed_eq]

/-! ## An update -/

/-- A sequence is being shown. -/
def Playing (b : Blinking) : Prop :=
  ∃ sequence, b.pSequence = some sequence ∧ Playable sequence ∧ b.sequenceIdx < sequence.length

/-- After its last colour a sequence gives way to the one that is wanted then. -/
theorem startNextSequence_eq (hctrl : s.ctrl.ledsSmState ≠ .initial) :
    startNextSequence s =
      some { s with
        blinking :=
          if s.blinking.sequenceIdx = 0 then ⟨s.ctrl.getNewBlinkingSequence s.ctrl2, 0⟩
          else s.blinking } := by
  obtain ⟨sequence, hseq, -⟩ := LedsCtrl.exists_playable hctrl s.ctrl2
  unfold startNextSequence Blinking.isSequenceFinished
  by_cases hidx : s.blinking.sequenceIdx = 0
  · simp [hidx, Blinking.setNewSequence, hseq]
  · simp [hidx]

/-- `leds_task_handle_sig_update` shows one colour. -/
theorem handleSigUpdate_eq {sequence : Sequence} {idx : Nat} (hplay : Playable sequence)
    (hidx : idx < sequence.length) (hblink : s.blinking = ⟨some sequence, idx⟩) :
    handleSigUpdate s =
      (setColor ((colorsOf sequence).get ⟨idx, by simpa using hidx⟩)
        { s with
          blinking :=
            ⟨some sequence, if idx + 1 = sequence.length then 0 else idx + 1⟩ }).bind
        startNextSequence := by
  unfold handleSigUpdate
  rw [hblink, Blinking.getNext_eq hplay hidx]
  rfl

/-- What an update does. -/
theorem shown_of_handleSigUpdate {sequence : Sequence} {idx : Nat} (hplay : Playable sequence)
    (hidx : idx < sequence.length) (hblink : s.blinking = ⟨some sequence, idx⟩)
    (hctrl : s.ctrl.ledsSmState ≠ .initial)
    (hgreen : s.greenLedState = decide (s.ledsState = .green)) (h : handleSigUpdate s = some t) :
    ∃ u, Shown ((colorsOf sequence).get ⟨idx, by simpa using hidx⟩) s u ∧
      t = { u with
        blinking :=
          if idx + 1 = sequence.length then ⟨s.ctrl.getNewBlinkingSequence s.ctrl2, 0⟩
          else ⟨some sequence, idx + 1⟩ } := by
  rw [handleSigUpdate_eq hplay hidx hblink] at h
  obtain ⟨u, hu, ht⟩ := Option.bind_eq_some_iff.mp h
  have hshown := shown_of_setColor (by exact hgreen) hu
  rw [startNextSequence_eq (by rw [hshown.ctrl]; exact hctrl), hshown.ctrl, hshown.ctrl2,
    hshown.blinking] at ht
  refine ⟨{ u with blinking := s.blinking }, ⟨hshown.ctrl, hshown.ctrl2, rfl, hshown.ledsState,
    hshown.greenLedState, hshown.redLed, hshown.timerSigUpdate, hshown.nrf52Reset,
    hshown.switchCtrlCnt⟩, ?_⟩
  rw [← Option.some.inj ht]
  by_cases hlast : idx + 1 = sequence.length
  · simp [hlast, hshown.ctrl, hshown.ctrl2]
  · simp [hlast, hshown.ctrl, hshown.ctrl2]

/-! ## An event of the state machine -/

/-- The callbacks for a transition to any state but the one after a reboot. -/
theorem callOnTransition_eq {old new : LedsCtrlState} (hnew : new ≠ .afterReboot) (b : Board) :
    callOnTransition ledsCallbacks old new b =
      if new = .beforeReboot then
        if 0 < b.switchCtrlCnt then
          some
            { timerSigUpdate :=
                if old = .afterReboot then ⟨ledsTaskUpdatePeriodMs, true⟩
                else { b.timerSigUpdate with active := false }
              redLed := false
              switchCtrlCnt := b.switchCtrlCnt
              nrf52Reset := true }
        else none
      else
        some { b with
          timerSigUpdate :=
            if old = .afterReboot then ⟨ledsTaskUpdatePeriodMs, true⟩ else b.timerSigUpdate } := by
  unfold callOnTransition
  rw [if_neg hnew]
  by_cases hbefore : new = .beforeReboot
  · rw [if_pos hbefore, if_pos hbefore]
    by_cases hcnt : 0 < b.switchCtrlCnt
    · rw [if_pos hcnt]
      by_cases hold : old = .afterReboot <;>
        simp [callIfSet, ledsCallbacks, ledsCbOnEnterStateBeforeReboot, turnOffBeforeReboot,
          ledsTurnOffRed, gpioSwitchCtrlDeactivate, hcnt, nrf52fwHwResetNrf52,
          gpioSwitchCtrlActivate, hold, ledsCbOnExitStateAfterReboot, Nat.sub_add_cancel hcnt]
    · rw [if_neg hcnt]
      simp [callIfSet, ledsCallbacks, ledsCbOnEnterStateBeforeReboot, turnOffBeforeReboot,
        ledsTurnOffRed, gpioSwitchCtrlDeactivate, hcnt]
  · rw [if_neg hbefore, if_neg hbefore]
    by_cases hold : old = .afterReboot <;>
      simp [callIfSet, ledsCallbacks, ledsCbOnExitStateAfterReboot, hold]

/-- What an event of `leds_ctrl` does: nothing, or one transition. -/
theorem handleCtrlEvent_eq_some_iff (event : LedsCtrlEvent) :
    handleCtrlEvent event s = some t ↔
      s.ctrl.newSmState event = some s.ctrl.ledsSmState ∧ t = s ∨
        ∃ new b, new ≠ s.ctrl.ledsSmState ∧ s.ctrl.newSmState event = some new ∧
          callOnTransition ledsCallbacks s.ctrl.ledsSmState new s.board = some b ∧
          t = { s with ctrl := s.ctrl.enter new, board := b } := by
  unfold handleCtrlEvent
  rw [handleEvent_eq_bind]
  cases hnew : s.ctrl.newSmState event with
  | none => simp
  | some new =>
    by_cases hsame : new = s.ctrl.ledsSmState
    · subst hsame
      simp [eq_comm (a := t)]
    · simp only [Option.bind_some, if_neg hsame, transition, Option.map_map, Option.some.injEq,
        Option.map_eq_some_iff]
      constructor
      · rintro ⟨b, hb, rfl⟩
        exact Or.inr ⟨new, b, hsame, rfl, hb, rfl⟩
      · rintro (⟨h, -⟩ | ⟨new', b, -, rfl, hb, rfl⟩)
        · exact absurd h hsame
        · exact ⟨b, hb, rfl⟩

/-! ## The table of handlers -/

/-- The event of `leds_ctrl` that a signal brings. -/
def LedsTaskSig.ctrlEvent : LedsTaskSig → Option LedsCtrlEvent
  | .onEvReboot => some .reboot
  | .onEvNrf52FwCheck => some .nrf52FwCheck
  | .onEvNrf52FwUpdating => some .nrf52FwUpdating
  | .onEvNrf52Ready => some .nrf52Ready
  | .onEvNrf52Failure => some .nrf52Failure
  | .onEvNrf52Rebooted gwCfgInitialized => if gwCfgInitialized then some .nrf52Rebooted else none
  | .onEvNrf52Configured => some .nrf52Configured
  | .onEvCfgReady _ _ _ => some .cfgReady
  | .onEvCfgErased => some .cfgErased
  | _ => none

/-- The event of `leds_ctrl2` that a signal brings. -/
def LedsTaskSig.ctrl2Event : LedsTaskSig → Option LedsCtrl2Event
  | .onEvWifiApStarted => some .wifiApStarted
  | .onEvWifiApStopped => some .wifiApStopped
  | .onEvWpsActivated => some .wpsActivated
  | .onEvWpsDeactivated => some .wpsDeactivated
  | .onEvNetworkConnected => some .networkConnected
  | .onEvNetworkDisconnected => some .networkDisconnected
  | .onEvMqtt1Connected => some .mqtt1Connected
  | .onEvMqtt1Disconnected => some .mqtt1Disconnected
  | .onEvHttp1DataSentSuccessfully => some .http1DataSentSuccessfully
  | .onEvHttp1DataSentFail => some .http1DataSentFail
  | .onEvHttp2DataSentSuccessfully => some .http2DataSentSuccessfully
  | .onEvHttp2DataSentFail => some .http2DataSentFail
  | .onEvHttpPollOk => some .httpPollOk
  | .onEvHttpPollTimeout => some .httpPollTimeout
  | .onEvRecvAdv => some .recvAdv
  | .onEvRecvAdvTimeout => some .recvAdvTimeout
  | _ => none

/-- The configuration of the targets that a signal brings. -/
def LedsTaskSig.targets : LedsTaskSig → Option (Bool × Bool × Bool)
  | .onEvCfgReady useMqtt useHttpRuuvi useHttp => some (useMqtt, useHttpRuuvi, useHttp)
  | .onEvCfgChangedRuuvi useMqtt useHttpRuuvi useHttp => some (useMqtt, useHttpRuuvi, useHttp)
  | _ => none

/-- What a signal does to the sub-machine. -/
def LedsTaskSig.inform (sig : LedsTaskSig) (s : State) : State :=
  match sig.targets, sig.ctrl2Event with
  | some (useMqtt, useHttpRuuvi, useHttp), _ => configure useMqtt useHttpRuuvi useHttp s
  | none, some event => handleCtrl2Event event s
  | none, none => s

/-- `leds_task_handle_sig` for every signal but `UPDATE`: the sub-machine is told, and then the
machine takes the event. -/
theorem handleSig_eq {sig : LedsTaskSig} (h : sig ≠ .update) :
    handleSig s sig =
      match sig.ctrlEvent with
      | some event => handleCtrlEvent event (sig.inform s)
      | none => some (sig.inform s) := by
  cases sig
  case update => exact absurd rfl h
  case onEvNrf52Rebooted gwCfgInitialized => cases gwCfgInitialized <;> rfl
  all_goals rfl

/-- The sub-machine touches neither the state of the machine nor the LEDs. -/
structure SameOutputs (s t : State) : Prop where
  ledsSmState : t.ctrl.ledsSmState = s.ctrl.ledsSmState
  blinking : t.blinking = s.blinking
  ledsState : t.ledsState = s.ledsState
  greenLedState : t.greenLedState = s.greenLedState
  board : t.board = s.board

theorem sameOutputs_inform (sig : LedsTaskSig) (s : State) : SameOutputs s (sig.inform s) := by
  unfold LedsTaskSig.inform
  split
  · exact ⟨rfl, rfl, rfl, rfl, rfl⟩
  · unfold handleCtrl2Event
    split
    · exact ⟨rfl, rfl, rfl, rfl, rfl⟩
    · exact ⟨rfl, rfl, rfl, rfl, rfl⟩
  · exact ⟨rfl, rfl, rfl, rfl, rfl⟩

/-- What a signal does: an update, one transition of the machine, or nothing that is seen. -/
theorem handleSig_cases {sig : LedsTaskSig} (h : handleSig s sig = some t) :
    sig = .update ∧ handleSigUpdate s = some t ∨
      sig ≠ .update ∧ t = sig.inform s ∧
        (∀ event, sig.ctrlEvent = some event →
          (sig.inform s).ctrl.newSmState event = some s.ctrl.ledsSmState) ∨
      sig ≠ .update ∧ ∃ event new b, sig.ctrlEvent = some event ∧
        new ≠ s.ctrl.ledsSmState ∧ (sig.inform s).ctrl.newSmState event = some new ∧
        callOnTransition ledsCallbacks s.ctrl.ledsSmState new s.board = some b ∧
        t = { sig.inform s with ctrl := (sig.inform s).ctrl.enter new, board := b } := by
  by_cases hsig : sig = .update
  · subst hsig
    exact Or.inl ⟨rfl, h⟩
  · refine Or.inr ?_
    have hsame := sameOutputs_inform sig s
    rw [handleSig_eq hsig] at h
    cases hevent : sig.ctrlEvent with
    | none =>
      rw [hevent] at h
      exact Or.inl ⟨hsig, (Option.some.inj h).symm, fun event h => absurd h (by simp)⟩
    | some event =>
      rw [hevent] at h
      obtain ⟨hstay, rfl⟩ | ⟨new, b, hne, hnew, hb, rfl⟩ :=
        (handleCtrlEvent_eq_some_iff event).mp h
      · refine Or.inl ⟨hsig, rfl, fun event' hevent' => ?_⟩
        rw [← Option.some.inj hevent', hstay, hsame.ledsSmState]
      · rw [hsame.ledsSmState] at hne hb
        rw [hsame.board] at hb
        exact Or.inr ⟨hsig, event, new, b, rfl, hne, hnew, hb, rfl⟩

end Leds
end RuuviGateway
