import RuuviGateway.Nrf52.Assertions

/-!
# Requests for the LED

`adv_post_nrf52_send_led_ctrl` sends its interval at once, unless an ACK is awaited; then it is
only remembered in `g_adv_post_nrf52_led_ctrl_time_interval_ms`.  There is one such variable for
the interval that is to be sent and for the one that has been sent and may have to be repeated,
and the handlers of ACKs and timeouts of both commands clear it or send it on.

A request that is remembered is safe as long as the task waits for an ACK.  It is let go in
three ways: the ACK of an older `LED_CTRL` clears it, a reboot of the radio that was reported
before the request but is handled after it does so too, and a timeout with settings that are
required, but not sent in manual reset mode, leaves nobody waiting.
-/

namespace RuuviGateway
namespace AdvPostNrf52

open TransitionSystem

variable {s t : State}

/-! ## The last request -/

/-- The gateway; the interval of the last call of `adv_post_nrf52_send_led_ctrl`; whether a
`LED_CTRL` with it has been sent since; and whether the radio has been neither reset nor
rebooted since. -/
structure LedWatch where
  state : State
  request : Option UInt16
  issued : Bool
  undisturbed : Bool

/-- The interval of the `LED_CTRL` that a step has put on the UART. -/
def sentLed (s t : State) : Option UInt16 :=
  if t.uartTx = s.uartTx then none
  else match t.uartTx.getLast? with
    | some ⟨.ledCtrl timeIntervalMs, _⟩ => some timeIntervalMs
    | some ⟨.setAll _, _⟩ => none
    | none => none

/-- The radio is reset by the step, or it reboots. -/
def resetsRadio (s : State) : AssertStep → Bool
  | .event (.raise .nrf52Rebooted) => true
  | .event (.handle .nrf52HwResetOff) => true
  | .event (.handle .nrf52CfgReqTimeout) => true
  | .event (.handle .nrf52AckTimeout) => decide (noAckMaxCnt ≤ s.ackTimeoutCnt + 1)
  | _ => false

/-- One step, with the requests noted down. -/
def ledStep (w : LedWatch) (a : AssertStep) : Option LedWatch :=
  (assertSystem.step w.state a).map fun t =>
    match a with
    | .event (.sendLedCtrl timeIntervalMs) =>
        { state := t
          request := some timeIntervalMs
          issued := decide (sentLed w.state t = some timeIntervalMs)
          undisturbed := true }
    | a =>
        { state := t
          request := w.request
          issued := w.issued || decide (w.request.isSome ∧ sentLed w.state t = w.request)
          undisturbed := w.undisturbed && !resetsRadio w.state a }

/-- The gateway with any radio in any mode, and its last request. -/
def ledSystem : System LedWatch AssertStep where
  init w := assertSystem.init w.state ∧ w.request = none ∧ w.issued = false ∧
    w.undisturbed = false
  step := ledStep

/-- **The property**: when no ACK is awaited, and no ACK or timeout is pending, then the last
request has been sent, unless the radio has been reset or rebooted since. -/
def LedDelivered (w : LedWatch) : Prop :=
  w.state.isWaitingAck = false → .nrf52AckLedCtrl ∉ w.state.pending →
    .nrf52AckCfg ∉ w.state.pending → .nrf52AckTimeout ∉ w.state.pending →
    w.request.isSome = true → w.undisturbed = true → w.issued = true

/-! ## The invariant -/

/-- The last request, if it has neither been sent nor been overtaken by a reset. -/
def LedWatch.outstanding (w : LedWatch) : Option UInt16 :=
  if w.issued = false ∧ w.undisturbed = true then w.request else none

/-- The task waits for an ACK and remembers the interval. -/
structure Remembers (s : State) (timeIntervalMs : UInt16) : Prop where
  waits : s.isWaitingAck = true
  interval : s.ledCtrlTimeIntervalMs = timeIntervalMs
  valid : timeIntervalMs ≠ ledCtrlTimeIntervalInvalid

/-- **The invariant**: a request that has not been sent is remembered. -/
def Held (w : LedWatch) : Prop :=
  ∀ timeIntervalMs, w.outstanding = some timeIntervalMs → Remembers w.state timeIntervalMs

/-- The step makes the task forget an interval, or stop waiting. -/
def letsGo (s : State) : AssertStep → Bool
  | .event (.handle .nrf52AckLedCtrl) => true
  | .event (.handle .nrf52Rebooted) => true
  | .event (.handle .nrf52AckTimeout) => s.flagCfgRequired && s.manualResetMode
  | _ => false

/-- The step does not let an outstanding request go. -/
def KeepsRequest (w : LedWatch) (a : AssertStep) : Prop :=
  w.outstanding.isSome = true → resetsRadio w.state a = false → letsGo w.state a = false

/-! ## What a step sends -/

/-- The interval has been sent, or it is still remembered. -/
def SentOrRemembered (s t : State) (timeIntervalMs : UInt16) : Prop :=
  sentLed s t = some timeIntervalMs ∨ Remembers t timeIntervalMs

theorem sentLed_of_eq (h : t.uartTx = s.uartTx) : sentLed s t = none := by
  rw [sentLed, if_pos h]

theorem sentLed_of_append {m : TxMsg} (h : t.uartTx = s.uartTx ++ [m]) :
    sentLed s t = match m.msg with
      | .ledCtrl timeIntervalMs => some timeIntervalMs
      | .setAll _ => none := by
  have hne : t.uartTx ≠ s.uartTx := by simp [h]
  rw [sentLed, if_neg hne, h, List.getLast?_concat]
  obtain ⟨msg, epoch⟩ := m
  cases msg with
  | ledCtrl timeIntervalMs => rfl
  | setAll settings => rfl

/-! ## The two functions that send -/

/-- A `LED_CTRL` carries the interval that is remembered. -/
theorem sentLed_of_sendLed {u : State} (h : sendCmdLedCtrlInternal u = some t)
    (htx : u.uartTx = s.uartTx) : sentLed s t = some u.ledCtrlTimeIntervalMs := by
  rw [sendCmdLedCtrlInternal_eq_some h]
  exact sentLed_of_append (m := ⟨.ledCtrl u.ledCtrlTimeIntervalMs, u.epoch⟩) (by rw [← htx]; rfl)

/-- What `adv_post_nrf52_send_cmd_cfg_internal` leaves of an interval. -/
structure LedAfterCfg (s u t : State) : Prop where
  sent : sentLed s t = none
  interval : t.ledCtrlTimeIntervalMs = u.ledCtrlTimeIntervalMs
  waits : t.isWaitingAck = !u.manualResetMode

theorem ledAfterCfg {u : State} (h : sendCmdCfgInternal u = some t)
    (htx : u.uartTx = s.uartTx) : LedAfterCfg s u t := by
  unfold sendCmdCfgInternal at h
  split at h
  · exact absurd h (by simp)
  · rename_i hassert
    split at h
    · rename_i hmanual
      obtain rfl := Option.some.inj h
      have hwait : u.isWaitingAck = false := by
        simp only [Bool.or_eq_true, Bool.not_eq_true', not_or] at hassert
        simpa using hassert.1.1
      exact ⟨sentLed_of_eq htx, rfl, by rw [hmanual, hwait]; rfl⟩
    · rename_i hmanual
      obtain rfl := Option.some.inj h
      refine ⟨?_, rfl, by simp only [Bool.not_eq_true] at hmanual; rw [hmanual]; rfl⟩
      exact sentLed_of_append (m := ⟨.setAll u.cached, u.epoch⟩) (by rw [← htx]; rfl)

/-! ## The handlers -/

variable {timeIntervalMs : UInt16}

theorem not_sentOrRemembered_of_cleared (hvalid : timeIntervalMs ≠ ledCtrlTimeIntervalInvalid)
    (hsent : sentLed s t = none) (hclear : t.ledCtrlTimeIntervalMs = ledCtrlTimeIntervalInvalid) :
    ¬ SentOrRemembered s t timeIntervalMs := by
  rintro (h | h)
  · exact absurd (hsent.symm.trans h) (by simp)
  · exact hvalid (h.interval.symm.trans hclear)

/-- The radio's reboot clears the interval. -/
theorem not_sentOrRemembered_rebooted (h : Remembers s timeIntervalMs) :
    ¬ SentOrRemembered s (onSigNrf52Rebooted s) timeIntervalMs := by
  simp only [onSigNrf52Rebooted]
  split
  · exact not_sentOrRemembered_of_cleared h.valid (sentLed_of_eq rfl) rfl
  · split
    · exact not_sentOrRemembered_of_cleared h.valid (sentLed_of_eq rfl) rfl
    · exact not_sentOrRemembered_of_cleared h.valid (sentLed_of_eq rfl) rfl

/-- The ACK of a `LED_CTRL` clears the interval, whichever the command was sent with. -/
theorem not_sentOrRemembered_ackLedCtrl (h : Remembers s timeIntervalMs)
    (hstep : onSyncAckLedCtrl s = some t) : ¬ SentOrRemembered s t timeIntervalMs := by
  simp only [onSyncAckLedCtrl] at hstep
  split at hstep
  · have hcfg := ledAfterCfg (s := s) hstep rfl
    exact not_sentOrRemembered_of_cleared h.valid hcfg.sent hcfg.interval
  · rw [← Option.some.inj hstep]
    exact not_sentOrRemembered_of_cleared h.valid (sentLed_of_eq rfl) rfl

/-- The ACK of a `SET_ALL` sends the interval. -/
theorem sentLed_ackCfg (h : Remembers s timeIntervalMs) (hstep : onSyncAckCfg s = some t) :
    sentLed s t = some timeIntervalMs := by
  have hinterval : s.ledCtrlTimeIntervalMs ≠ ledCtrlTimeIntervalInvalid := h.interval ▸ h.valid
  simp only [onSyncAckCfg] at hstep
  rw [if_pos hinterval] at hstep
  exact (sentLed_of_sendLed hstep rfl).trans (congrArg some h.interval)

/-- While an ACK is awaited, an update of the configuration only notes that it is required. -/
theorem remembers_cfgUpdate (h : Remembers s timeIntervalMs)
    (hstep : onSigNrf52CfgUpdate s = some t) : Remembers t timeIntervalMs := by
  simp only [onSigNrf52CfgUpdate] at hstep
  rw [if_neg (by simp [h.waits])] at hstep
  rw [← Option.some.inj hstep]
  exact ⟨h.waits, h.interval, h.valid⟩

/-- A timeout sends the required configuration, or else the interval; in manual reset mode it
sends no configuration, and then nothing is awaited. -/
theorem sentOrRemembered_ackTimeout_iff (h : Remembers s timeIntervalMs)
    (hreset : resetsRadio s (.event (.handle .nrf52AckTimeout)) = false)
    (hstep : onSyncAckTimeout s = some t) : SentOrRemembered s t timeIntervalMs ↔
      (s.flagCfgRequired && s.manualResetMode) = false := by
  have hcnt : ¬ noAckMaxCnt ≤ s.ackTimeoutCnt + 1 := of_decide_eq_false hreset
  simp only [onSyncAckTimeout] at hstep
  rw [if_neg hcnt] at hstep
  split at hstep
  · rename_i hrequired
    have hcfg := ledAfterCfg (s := s) hstep rfl
    rw [hrequired, Bool.true_and]
    constructor
    · rintro (hsent | hrem)
      · exact absurd (hcfg.sent.symm.trans hsent) (by simp)
      · simpa using hcfg.waits.symm.trans hrem.waits
    · intro hmanual
      exact .inr ⟨by rw [hcfg.waits]; simp [hmanual], hcfg.interval.trans h.interval, h.valid⟩
  · rename_i hrequired
    have hinterval : s.ledCtrlTimeIntervalMs ≠ ledCtrlTimeIntervalInvalid := h.interval ▸ h.valid
    rw [if_pos hinterval] at hstep
    refine iff_of_true (.inl ?_) (by simp [hrequired])
    exact (sentLed_of_sendLed hstep rfl).trans (congrArg some h.interval)

/-- **The handlers**: which of them let an interval go. -/
theorem sentOrRemembered_handleSig_iff {sig : Sig} (h : Remembers s timeIntervalMs)
    (hreset : resetsRadio s (.event (.handle sig)) = false) (hstep : handleSig sig s = some t) :
    SentOrRemembered s t timeIntervalMs ↔ letsGo s (.event (.handle sig)) = false := by
  cases sig with
  | nrf52Rebooted =>
    obtain rfl := Option.some.inj hstep
    exact iff_of_false (not_sentOrRemembered_rebooted h) (by simp [letsGo])
  | nrf52Configured =>
    obtain rfl := Option.some.inj hstep
    exact iff_of_true (.inr h) rfl
  | nrf52AckLedCtrl =>
    exact iff_of_false (not_sentOrRemembered_ackLedCtrl h hstep) (by simp [letsGo])
  | nrf52AckCfg => exact iff_of_true (.inl (sentLed_ackCfg h hstep)) rfl
  | nrf52AckTimeout => exact sentOrRemembered_ackTimeout_iff h hreset hstep
  | nrf52CfgUpdate => exact iff_of_true (.inr (remembers_cfgUpdate h hstep)) rfl
  | nrf52HwResetOff => exact absurd hreset (by simp [resetsRadio])
  | nrf52CfgReqTimeout => exact absurd hreset (by simp [resetsRadio])

/-! ## One step -/

theorem remembers_onAsyncAck (h : Remembers s timeIntervalMs) (ack : RxAck) :
    Remembers (onAsyncAck ack s) timeIntervalMs := by
  simp only [onAsyncAck]
  split
  · exact ⟨h.waits, h.interval, h.valid⟩
  · split
    · split
      · exact ⟨h.waits, h.interval, h.valid⟩
      · exact ⟨h.waits, h.interval, h.valid⟩
    · split
      · exact ⟨h.waits, h.interval, h.valid⟩
      · exact ⟨h.waits, h.interval, h.valid⟩
    · exact ⟨h.waits, h.interval, h.valid⟩

/-- The step is not a new request. -/
def NoRequest (a : AssertStep) : Prop :=
  ∀ timeIntervalMs, a ≠ .event (.sendLedCtrl timeIntervalMs)

/-- **One step** lets a remembered interval go just where `letsGo` says so. -/
theorem sentOrRemembered_step_iff {a : AssertStep} (h : Remembers s timeIntervalMs)
    (hreset : resetsRadio s a = false) (hnew : NoRequest a)
    (hstep : assertSystem.step s a = some t) :
    SentOrRemembered s t timeIntervalMs ↔ letsGo s a = false := by
  cases a with
  | setManualResetMode manualResetMode =>
    obtain rfl := Option.some.inj hstep
    exact iff_of_true (.inr ⟨h.waits, h.interval, h.valid⟩) rfl
  | event ev =>
    obtain ⟨-, hstep⟩ := Option.ite_none_right_eq_some.mp hstep
    cases ev with
    | cfgUpdate scan filter =>
      obtain rfl := Option.some.inj hstep
      exact iff_of_true (.inr ⟨h.waits, h.interval, h.valid⟩) rfl
    | sendLedCtrl ms => exact absurd rfl (hnew ms)
    | raise sig =>
      obtain rfl := Option.some.inj hstep
      exact iff_of_true (.inr ⟨h.waits, h.interval, h.valid⟩) rfl
    | handle sig =>
      obtain ⟨-, hstep⟩ := Option.ite_none_right_eq_some.mp hstep
      exact sentOrRemembered_handleSig_iff (s := { s with pending := s.pending.erase sig })
        ⟨h.waits, h.interval, h.valid⟩ hreset hstep
    | ackTimerFires | resetTimerFires | cfgReqTimerFires =>
      obtain ⟨-, rfl⟩ := Option.ite_some_none_eq_some.mp hstep
      exact iff_of_true (.inr ⟨h.waits, h.interval, h.valid⟩) rfl
    | recvAck ack =>
      obtain rfl := Option.some.inj hstep
      exact iff_of_true (.inr (remembers_onAsyncAck h ack)) rfl

/-- A new request is sent, or it is remembered. -/
theorem sentOrRemembered_sendLedCtrl (hvalid : timeIntervalMs ≠ ledCtrlTimeIntervalInvalid)
    (hstep : sendLedCtrl timeIntervalMs s = some t) : SentOrRemembered s t timeIntervalMs := by
  simp only [sendLedCtrl] at hstep
  split at hstep
  · exact .inl (sentLed_of_sendLed hstep rfl)
  · rename_i hwait
    obtain rfl := Option.some.inj hstep
    exact .inr ⟨by simpa using hwait, rfl, hvalid⟩

/-! ## Runs -/

variable {w v : LedWatch}

/-- What a step that is not a new request does to the last one. -/
theorem ledStep_of_noRequest {a : AssertStep} (hnew : NoRequest a)
    (hstep : ledStep w a = some v) :
    assertSystem.step w.state a = some v.state ∧ v.request = w.request ∧
      v.issued = (w.issued || decide (w.request.isSome ∧ sentLed w.state v.state = w.request)) ∧
      v.undisturbed = (w.undisturbed && !resetsRadio w.state a) := by
  obtain ⟨t, ht, rfl⟩ := Option.map_eq_some_iff.mp hstep
  cases a with
  | setManualResetMode manualResetMode => exact ⟨ht, rfl, rfl, rfl⟩
  | event ev =>
    cases ev with
    | sendLedCtrl ms => exact absurd rfl (hnew ms)
    | cfgUpdate scan filter => exact ⟨ht, rfl, rfl, rfl⟩
    | raise sig | handle sig => exact ⟨ht, rfl, rfl, rfl⟩
    | ackTimerFires | resetTimerFires | cfgReqTimerFires => exact ⟨ht, rfl, rfl, rfl⟩
    | recvAck ack => exact ⟨ht, rfl, rfl, rfl⟩

/-- What is outstanding after such a step was outstanding before it, has not been sent by it and
has not been overtaken by it. -/
theorem outstanding_of_noRequest {a : AssertStep} (hnew : NoRequest a)
    (hstep : ledStep w a = some v) :
    v.outstanding = some timeIntervalMs ↔ w.outstanding = some timeIntervalMs ∧
      resetsRadio w.state a = false ∧ sentLed w.state v.state ≠ some timeIntervalMs := by
  obtain ⟨-, hrequest, hissued, hundisturbed⟩ := ledStep_of_noRequest hnew hstep
  simp only [LedWatch.outstanding, hrequest, hissued, hundisturbed, Option.ite_none_right_eq_some,
    Bool.or_eq_false_iff, decide_eq_false_iff_not, Bool.and_eq_true, Bool.not_eq_true']
  constructor
  · rintro ⟨⟨⟨hi, hsent⟩, hu, hreset⟩, hreq⟩
    rw [hreq] at hsent
    exact ⟨⟨⟨hi, hu⟩, hreq⟩, hreset, fun h => hsent ⟨rfl, h⟩⟩
  · rintro ⟨⟨⟨hi, hu⟩, hreq⟩, hreset, hsent⟩
    rw [hreq]
    exact ⟨⟨⟨hi, fun h => hsent h.2⟩, hu, hreset⟩, rfl⟩

theorem held_of_request {ms : UInt16} (hstep : ledStep w (.event (.sendLedCtrl ms)) = some v) :
    Held v := by
  obtain ⟨t, ht, rfl⟩ := Option.map_eq_some_iff.mp hstep
  obtain ⟨hvalid, ht⟩ := Option.ite_none_right_eq_some.mp ht
  intro timeIntervalMs hout
  obtain ⟨⟨hissued, -⟩, hreq⟩ := Option.ite_none_right_eq_some.mp hout
  obtain rfl := Option.some.inj hreq
  exact (sentOrRemembered_sendLedCtrl hvalid ht).resolve_left (of_decide_eq_false hissued)

/-- **One step keeps the invariant just when it lets no outstanding request go.** -/
theorem held_step_iff {a : AssertStep} (h : Held w) (hstep : ledStep w a = some v) :
    Held v ↔ KeepsRequest w a := by
  by_cases hnew : NoRequest a
  · have ht := (ledStep_of_noRequest hnew hstep).1
    constructor
    · intro hv hsome hreset
      obtain ⟨ms, hms⟩ := Option.isSome_iff_exists.mp hsome
      refine (sentOrRemembered_step_iff (h ms hms) hreset hnew ht).mp ?_
      exact or_iff_not_imp_left.mpr fun hsent =>
        hv ms ((outstanding_of_noRequest hnew hstep).mpr ⟨hms, hreset, hsent⟩)
    · intro hkeeps ms hout
      obtain ⟨hms, hreset, hsent⟩ := (outstanding_of_noRequest hnew hstep).mp hout
      have hgo := hkeeps (Option.isSome_iff_exists.mpr ⟨ms, hms⟩) hreset
      exact ((sentOrRemembered_step_iff (h ms hms) hreset hnew ht).mpr hgo).resolve_left hsent
  · obtain ⟨ms, hms⟩ := not_forall.mp hnew
    obtain rfl := not_not.mp hms
    exact iff_of_true (held_of_request hstep) fun _ _ => rfl

theorem held_of_keepsRequest (h : ledSystem.ReachableVia KeepsRequest w) : Held w := by
  refine h.invariant (P := Held) ?_ fun u a v _ hu hkeeps hstep =>
    (held_step_iff hu hstep).mpr hkeeps
  rintro u ⟨-, -, -, hundisturbed⟩ ms hout
  obtain ⟨⟨-, hu⟩, -⟩ := Option.ite_none_right_eq_some.mp hout
  exact absurd (hundisturbed.symm.trans hu) Bool.false_ne_true

/-- **No request for the LED is lost** in a run that never lets an outstanding one go. -/
theorem ledDelivered_of_keepsRequest (h : ledSystem.ReachableVia KeepsRequest w) :
    LedDelivered w := by
  intro hwait _ _ _ hsome hundisturbed
  obtain ⟨ms, hms⟩ := Option.isSome_iff_exists.mp hsome
  by_contra hissued
  have hout : w.outstanding = some ms := by
    rw [LedWatch.outstanding, if_pos ⟨by simpa using hissued, hundisturbed⟩, hms]
  exact absurd (hwait.symm.trans (held_of_keepsRequest h ms hout).waits) Bool.false_ne_true

instance decidableKeepsRequest (w : LedWatch) (a : AssertStep) : Decidable (KeepsRequest w a) :=
  inferInstanceAs (Decidable (_ → _ → _))

/-! ## Two runs -/

/-- The gateway after `adv_post_nrf52_init`. -/
def ledWatchInit : LedWatch where
  state := init ⟨true, true, false, true, true, true, false⟩ ⟨0x499, false⟩ false none
  request := none
  issued := false
  undisturbed := false

/-- The radio is released from its reset and reports its reboot. -/
def radioStarts : List AssertStep :=
  [.event .resetTimerFires, .event (.handle .nrf52HwResetOff), .event (.handle .nrf52Rebooted)]

/-- Nothing is awaited or pending that the last request could wait for. -/
def ledQuiet (w : LedWatch) : Bool :=
  !w.state.isWaitingAck && decide (.nrf52AckLedCtrl ∉ w.state.pending) &&
    decide (.nrf52AckCfg ∉ w.state.pending) && decide (.nrf52AckTimeout ∉ w.state.pending) &&
    w.request.isSome && w.undisturbed

/-- A request that comes while the ACK of a `SET_ALL` is awaited is sent when it comes in. -/
theorem ledDelivered_duringSetAll :
    ∃ w, ledSystem.ReachableVia KeepsRequest w ∧ w.request = some 500 ∧ w.issued = true := by
  obtain ⟨w, hr, hp⟩ := ledSystem.exists_reachableVia_of_run (C := KeepsRequest)
    (s := ledWatchInit) ⟨⟨_, _, _, _, rfl⟩, rfl, rfl, rfl⟩
    (radioStarts ++
      [.event (.cfgUpdate ⟨true, true, false, true, true, true, false⟩ ⟨0x499, false⟩),
        .event (.handle .nrf52CfgUpdate), .event (.sendLedCtrl 500),
        .event (.recvAck ⟨.setAll, 0, 2⟩), .event (.handle .nrf52AckCfg),
        .event (.recvAck ⟨.ledCtrl, 0, 2⟩), .event (.handle .nrf52AckLedCtrl)])
    (fun w => ledQuiet w && decide (w.request = some 500)) (by decide +kernel)
  simp only [ledQuiet, Bool.and_eq_true, Bool.not_eq_true', decide_eq_true_eq] at hp
  obtain ⟨⟨⟨⟨⟨⟨hwait, hled⟩, hcfg⟩, htimeout⟩, hsome⟩, hundisturbed⟩, hrequest⟩ := hp
  refine ⟨w, hr, hrequest, ?_⟩
  exact ledDelivered_of_keepsRequest hr hwait hled hcfg htimeout hsome hundisturbed

/-- A second request comes while the ACK of the first one is awaited, and the ACK erases it. -/
theorem not_ledDelivered : ¬ ∀ w, ledSystem.Reachable w → LedDelivered w := by
  intro hall
  obtain ⟨w, hr, hp⟩ := ledSystem.exists_reachable_of_run
    (s := ledWatchInit) ⟨⟨_, _, _, _, rfl⟩, rfl, rfl, rfl⟩
    (radioStarts ++
      [.event (.sendLedCtrl 1000), .event (.sendLedCtrl 500),
        .event (.recvAck ⟨.ledCtrl, 0, 2⟩), .event (.handle .nrf52AckLedCtrl)])
    (fun w => ledQuiet w && !w.issued) (by decide +kernel)
  simp only [ledQuiet, Bool.and_eq_true, Bool.not_eq_true', decide_eq_true_eq] at hp
  obtain ⟨⟨⟨⟨⟨⟨hwait, hled⟩, hcfg⟩, htimeout⟩, hsome⟩, hundisturbed⟩, hissued⟩ := hp
  have hdelivered := hall w hr hwait hled hcfg htimeout hsome hundisturbed
  exact absurd (hissued.symm.trans hdelivered) Bool.false_ne_true

end AdvPostNrf52
end RuuviGateway
