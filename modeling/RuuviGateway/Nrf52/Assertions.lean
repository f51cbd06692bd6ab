import RuuviGateway.Nrf52.Handlers
import RuuviGateway.Nrf52.Progress

/-!
# The assertions of the two functions that send

`adv_post_nrf52_send_cmd_led_ctrl_internal` and `adv_post_nrf52_send_cmd_cfg_internal` begin
with assertions, and a failed one reboots the gateway.  In the model both return `none` then,
and every function that calls them passes it on.

The invariant is that a required configuration means an unconfigured radio.  The other
assertions hold on the way to the call: each caller has just taken back the wait for an ACK
or looked at it, and looks at the interval.

The radio does anything here: signals of any age become pending at any time, ACKs of any kind
come in, and the manual reset mode is switched back and forth.
-/

namespace RuuviGateway
namespace AdvPostNrf52

open TransitionSystem

variable {s t : State}

/-- The assertions of `adv_post_nrf52_send_cmd_led_ctrl_internal`. -/
def LedCtrlAsserts (s : State) : Prop :=
  s.isWaitingAck = false ∧ s.ledCtrlTimeIntervalMs ≠ ledCtrlTimeIntervalInvalid

/-- The assertions of `adv_post_nrf52_send_cmd_cfg_internal`. -/
def CfgAsserts (s : State) : Prop :=
  s.isWaitingAck = false ∧ s.flagNrf52Configured = false ∧ s.flagCfgRequired = true

theorem sendCmdLedCtrlInternal_isSome_iff :
    (sendCmdLedCtrlInternal s).isSome = true ↔ LedCtrlAsserts s := by
  unfold sendCmdLedCtrlInternal LedCtrlAsserts
  cases s.isWaitingAck with
  | true => simp
  | false => simp

theorem sendCmdCfgInternal_isSome_iff :
    (sendCmdCfgInternal s).isSome = true ↔ CfgAsserts s := by
  unfold sendCmdCfgInternal CfgAsserts
  cases s.isWaitingAck with
  | true => simp
  | false =>
    cases s.flagNrf52Configured with
    | true => simp
    | false =>
      cases s.flagCfgRequired with
      | true =>
        cases s.manualResetMode with
        | true => simp
        | false => simp
      | false => simp

/-! ## The steps -/

/-- What can happen. -/
inductive AssertStep where
  | event (ev : Event)
  /-- `nrf52fw_set_manual_reset_mode`. -/
  | setManualResetMode (manualResetMode : Bool)

/-- The interval of a `LED_CTRL` is not the value that means "none". -/
def Event.ValidInterval : Event → Prop
  | .sendLedCtrl timeIntervalMs => timeIntervalMs ≠ ledCtrlTimeIntervalInvalid
  | _ => True

instance decidableValidInterval (ev : Event) : Decidable ev.ValidInterval :=
  match ev with
  | .sendLedCtrl timeIntervalMs =>
      inferInstanceAs (Decidable (timeIntervalMs ≠ ledCtrlTimeIntervalInvalid))
  | .cfgUpdate _ _ | .raise _ | .handle _ | .ackTimerFires | .resetTimerFires
  | .cfgReqTimerFires | .recvAck _ => isTrue trivial

/-- The gateway with any radio in any mode, from `adv_post_nrf52_init` on. -/
def assertSystem : System State AssertStep where
  init s := ∃ scan filter manualResetMode radio, s = init scan filter manualResetMode radio
  step s
    | .event ev => if ev.ValidInterval then gatewayStep s ev else none
    | .setManualResetMode manualResetMode =>
        some { s with manualResetMode := manualResetMode }

/-! ## The invariant -/

/-- **The invariant**: a configuration is required only while the radio is not configured. -/
def RequiredUnconfigured (s : State) : Prop :=
  s.flagCfgRequired = true → s.flagNrf52Configured = false

theorem requiredUnconfigured_sendLedCtrl {timeIntervalMs : UInt16} (h : RequiredUnconfigured s)
    (hstep : sendLedCtrl timeIntervalMs s = some t) : RequiredUnconfigured t := by
  simp only [sendLedCtrl] at hstep
  split at hstep
  · rw [sendCmdLedCtrlInternal_eq_some hstep]
    exact h
  · rw [← Option.some.inj hstep]
    exact h

theorem requiredUnconfigured_onAsyncAck (h : RequiredUnconfigured s) (ack : RxAck) :
    RequiredUnconfigured (onAsyncAck ack s) := by
  simp only [onAsyncAck]
  split
  · exact h
  · split
    · split
      · exact h
      · exact h
    · split
      · exact h
      · exact h
    · exact h

/-- A handler requires a configuration only where it takes back that there is one. -/
theorem requiredUnconfigured_handleSig {sig : Sig} (h : RequiredUnconfigured s)
    (hstep : handleSig sig s = some t) : RequiredUnconfigured t := by
  by_cases hsig : sig = .nrf52HwResetOff
  · subst hsig
    rw [← Option.some.inj hstep]
    exact h
  · have hhandled := handled_of_handleSig hsig hstep
    intro hreq
    by_contra hconf
    rcases hhandled.configured (by simpa using hconf) with ⟨-, hnot⟩ | ⟨hupdate, hold⟩
    · exact absurd (hreq.symm.trans hnot) (by simp)
    · have hreq' := (hhandled.required hreq).resolve_right hupdate
      exact absurd ((h hreq').symm.trans hold) (by simp)

theorem requiredUnconfigured_step {ev : Event} (h : RequiredUnconfigured s)
    (hstep : gatewayStep s ev = some t) : RequiredUnconfigured t := by
  cases ev with
  | cfgUpdate scan filter =>
    rw [← Option.some.inj hstep]
    exact fun _ => rfl
  | sendLedCtrl timeIntervalMs => exact requiredUnconfigured_sendLedCtrl h hstep
  | raise sig =>
    rw [← Option.some.inj hstep]
    exact h
  | handle sig =>
    simp only [gatewayStep, step] at hstep
    split at hstep
    · exact requiredUnconfigured_handleSig
        (s := { s with pending := s.pending.erase sig }) h hstep
    · exact absurd hstep (by simp)
  | ackTimerFires | resetTimerFires | cfgReqTimerFires =>
    simp only [gatewayStep, step] at hstep
    obtain ⟨-, rfl⟩ := Option.ite_some_none_eq_some.mp hstep
    exact h
  | recvAck ack =>
    rw [← Option.some.inj hstep]
    exact requiredUnconfigured_onAsyncAck h ack

theorem requiredUnconfigured_of_reachable (hr : assertSystem.Reachable s) :
    RequiredUnconfigured s := by
  refine hr.invariant (P := RequiredUnconfigured) ?_ fun u a v _ hu _ hstep => ?_
  · rintro u ⟨scan, filter, manualResetMode, radio, rfl⟩
    exact fun h => absurd h Bool.false_ne_true
  · cases a with
    | event ev =>
      simp only [assertSystem] at hstep
      split at hstep
      · exact requiredUnconfigured_step hu hstep
      · exact absurd hstep (by simp)
    | setManualResetMode manualResetMode =>
      rw [← Option.some.inj hstep]
      exact hu

/-! ## No assertion fails -/

/-- The handler of every signal meets the assertions of the function it calls. -/
theorem handleSig_isSome (h : RequiredUnconfigured s) (sig : Sig) :
    (handleSig sig s).isSome = true := by
  cases sig with
  | nrf52Rebooted => rfl
  | nrf52Configured => rfl
  | nrf52AckLedCtrl =>
    simp only [handleSig, onSyncAckLedCtrl]
    split
    · rename_i hreq
      exact sendCmdCfgInternal_isSome_iff.mpr ⟨rfl, h hreq, hreq⟩
    · rfl
  | nrf52AckCfg =>
    simp only [handleSig, onSyncAckCfg]
    split
    · rename_i hinterval
      exact sendCmdLedCtrlInternal_isSome_iff.mpr ⟨rfl, hinterval⟩
    · rfl
  | nrf52AckTimeout =>
    simp only [handleSig, onSyncAckTimeout]
    split
    · rfl
    · split
      · rename_i hreq
        exact sendCmdCfgInternal_isSome_iff.mpr ⟨rfl, h hreq, hreq⟩
      · split
        · rename_i hinterval
          exact sendCmdLedCtrlInternal_isSome_iff.mpr ⟨rfl, hinterval⟩
        · rfl
  | nrf52CfgUpdate =>
    simp only [handleSig, onSigNrf52CfgUpdate]
    split
    · rename_i hwait
      exact sendCmdCfgInternal_isSome_iff.mpr ⟨by simpa using hwait, rfl, rfl⟩
    · rfl
  | nrf52HwResetOff => rfl
  | nrf52CfgReqTimeout => rfl

theorem sendLedCtrl_isSome (s : State) {timeIntervalMs : UInt16}
    (hvalid : timeIntervalMs ≠ ledCtrlTimeIntervalInvalid) :
    (sendLedCtrl timeIntervalMs s).isSome = true := by
  simp only [sendLedCtrl]
  split
  · rename_i hwait
    exact sendCmdLedCtrlInternal_isSome_iff.mpr ⟨by simpa using hwait, hvalid⟩
  · rfl

/-- **No assertion can fail**: in every reachable state the handler of every pending signal,
and `adv_post_nrf52_send_led_ctrl` with every valid interval, run to their end. -/
theorem assertions_hold (hr : assertSystem.Reachable s) :
    (∀ sig ∈ s.pending, (gatewayStep s (.handle sig)).isSome = true) ∧
      ∀ timeIntervalMs, timeIntervalMs ≠ ledCtrlTimeIntervalInvalid →
        (gatewayStep s (.sendLedCtrl timeIntervalMs)).isSome = true := by
  have h := requiredUnconfigured_of_reachable hr
  refine ⟨fun sig hsig => ?_, fun timeIntervalMs hvalid => sendLedCtrl_isSome s hvalid⟩
  simp only [gatewayStep, step, if_pos hsig]
  exact handleSig_isSome (s := { s with pending := s.pending.erase sig }) h sig

/-- A configuration is required, and in manual reset mode it has not been sent, when an ACK of
an earlier command makes the task send it. -/
theorem assertions_hold_staleAck :
    ∃ s, assertSystem.Reachable s ∧ s.flagCfgRequired = true ∧
      (gatewayStep s (.handle .nrf52AckLedCtrl)).isSome = true := by
  obtain ⟨s, hr, hp⟩ := assertSystem.exists_reachable_of_run
    (s := init ⟨true, true, false, true, true, true, false⟩ ⟨0x499, false⟩ true none)
    ⟨_, _, _, _, rfl⟩
    [.event (.cfgUpdate ⟨true, true, false, true, true, true, false⟩ ⟨0x499, false⟩),
      .event (.handle .nrf52CfgUpdate), .setManualResetMode false,
      .event (.raise .nrf52AckLedCtrl)]
    (fun s => s.flagCfgRequired && decide (.nrf52AckLedCtrl ∈ s.pending)) (by decide)
  simp only [Bool.and_eq_true, decide_eq_true_eq] at hp
  exact ⟨s, hr, hp.1, (assertions_hold hr).1 _ hp.2⟩

end AdvPostNrf52
end RuuviGateway
