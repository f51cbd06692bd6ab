import RuuviGateway.GwCfgJson.Instance
import RuuviGateway.Lib.Word32

/-!
# The periods of the timers

Three intervals of the configuration become periods of timers: the one in which the remote
configuration is read, in minutes, and those of posting over HTTP and of sending over MQTT, in
seconds.  Each is multiplied up to milliseconds and given to `pdMS_TO_TICKS`, which multiplies
once more before it divides; for MQTT the conversion comes before the multiplication.

The products are of 32 bits.
-/

namespace RuuviGateway
namespace Timers

open GwCfgJson Word32 Word32.Expr

/-! ## The conversions -/

/-- `configTICK_RATE_HZ`. -/
def configTickRateHz : UInt32 := 1000

/-- `TIME_UNITS_MS_PER_SECOND`. -/
def timeUnitsMsPerSecond : UInt32 := 1000

/-- `TIME_UNITS_SECONDS_PER_MINUTE`. -/
def timeUnitsSecondsPerMinute : UInt32 := 60

/-- `pdMS_TO_TICKS`. -/
def pdMsToTicks (ms : Expr) : Expr := div (mul ms (lit configTickRateHz)) (lit 1000)

/-- The period in `main_task_configure_periodic_remote_cfg_check`. -/
def remoteCfgPeriod (minutes : UInt16) : Expr :=
  pdMsToTicks (mul (mul (lit minutes.toUInt32) (lit timeUnitsSecondsPerMinute))
    (lit timeUnitsMsPerSecond))

/-- What `adv_post_on_gw_cfg_change` gives to `adv2_post_timer_set_default_period`. -/
def httpPeriodMs (period : UInt32) : Expr := mul (lit period) (lit timeUnitsMsPerSecond)

/-- What `adv_post_on_gw_cfg_change` gives to `adv_post_timers_restart_timer_sig_mqtt`. -/
def mqttPeriod (interval : UInt32) : Expr :=
  mul (pdMsToTicks (lit interval)) (lit timeUnitsMsPerSecond)

/-! ## Exact periods -/

/-- The period `ticks`, computed by the expression `e`, is that of an interval: no product
overflows, and the period is the number of ticks in so many seconds, which is not zero if the
interval is not. -/
structure ExactPeriod (e : Expr) (ticks : UInt32) (seconds : Nat) : Prop where
  noOverflow : e.NoOverflow
  exact : ticks.toNat = seconds * configTickRateHz.toNat
  ne_zero : seconds ≠ 0 → ticks ≠ 0

/-- A period that is computed without overflow is exact if it is meant to be. -/
theorem exactPeriod_iff {e : Expr} {seconds : Nat}
    (hvalue : e.value = seconds * configTickRateHz.toNat) :
    ExactPeriod e e.eval seconds ↔ e.NoOverflow := by
  refine ⟨ExactPeriod.noOverflow, fun h => ?_⟩
  have hexact : e.eval.toNat = seconds * configTickRateHz.toNat := (toNat_eval h).trans hvalue
  refine ⟨h, hexact, fun hne hzero => ?_⟩
  have hpos : 0 < seconds * configTickRateHz.toNat :=
    Nat.mul_pos (Nat.pos_of_ne_zero hne) (by decide)
  rw [← hexact, hzero] at hpos
  exact absurd hpos (by decide)

theorem exactPeriod_remote (minutes : UInt16) :
    ExactPeriod (remoteCfgPeriod minutes) (remoteCfgPeriod minutes).eval
      (minutes.toNat * timeUnitsSecondsPerMinute.toNat) ↔ minutes.toNat ≤ 71 := by
  have hvalue : (remoteCfgPeriod minutes).value =
      minutes.toNat * timeUnitsSecondsPerMinute.toNat * configTickRateHz.toNat := by
    simp [remoteCfgPeriod, pdMsToTicks, configTickRateHz, timeUnitsMsPerSecond,
      timeUnitsSecondsPerMinute]
  rw [exactPeriod_iff hvalue]
  simp only [remoteCfgPeriod, pdMsToTicks, configTickRateHz, timeUnitsMsPerSecond,
    timeUnitsSecondsPerMinute, noOverflow_mul, noOverflow_div, noOverflow_lit, value_mul,
    value_lit, UInt16.toNat_toUInt32, UInt32.reduceToNat, true_and, and_true]
  omega

theorem exactPeriod_http (period : UInt32) :
    ExactPeriod (pdMsToTicks (httpPeriodMs period)) (pdMsToTicks (httpPeriodMs period)).eval
      period.toNat ↔ period.toNat ≤ 4294 := by
  have hvalue : (pdMsToTicks (httpPeriodMs period)).value =
      period.toNat * configTickRateHz.toNat := by
    simp [httpPeriodMs, pdMsToTicks, configTickRateHz, timeUnitsMsPerSecond]
  rw [exactPeriod_iff hvalue]
  simp only [httpPeriodMs, pdMsToTicks, configTickRateHz, timeUnitsMsPerSecond, noOverflow_mul,
    noOverflow_div, noOverflow_lit, value_mul, value_lit, UInt32.reduceToNat, true_and, and_true]
  omega

theorem exactPeriod_mqtt (interval : UInt32) :
    ExactPeriod (mqttPeriod interval) (mqttPeriod interval).eval interval.toNat ↔
      interval.toNat ≤ 4294967 := by
  have hvalue : (mqttPeriod interval).value = interval.toNat * configTickRateHz.toNat := by
    simp [mqttPeriod, pdMsToTicks, configTickRateHz, timeUnitsMsPerSecond]
  rw [exactPeriod_iff hvalue]
  simp only [mqttPeriod, pdMsToTicks, configTickRateHz, timeUnitsMsPerSecond, noOverflow_mul,
    noOverflow_div, noOverflow_lit, value_mul, value_div, value_lit, UInt32.reduceToNat,
    true_and, and_true]
  omega

/-! ## The timers -/

/-- `os_timer_sig_periodic_t`. -/
structure PeriodicTimer where
  period : UInt32
  isActive : Bool
  deriving DecidableEq

/-- `os_timer_sig_periodic_set_period`. -/
def PeriodicTimer.setPeriod (t : PeriodicTimer) (ticks : UInt32) : PeriodicTimer :=
  { t with period := ticks }

/-- `os_timer_sig_periodic_start` and `os_timer_sig_periodic_relaunch`. -/
def PeriodicTimer.relaunch (t : PeriodicTimer) : PeriodicTimer := { t with isActive := true }

/-- `os_timer_sig_periodic_stop`. -/
def PeriodicTimer.stop (t : PeriodicTimer) : PeriodicTimer := { t with isActive := false }

/-- `os_timer_sig_periodic_restart_with_period`. -/
def PeriodicTimer.restartWithPeriod (t : PeriodicTimer) (ticks : UInt32) : PeriodicTimer :=
  (t.setPeriod ticks).relaunch

/-- The timers that the configuration starts and stops, and `default_interval_ms` of the two for
HTTP. -/
structure State where
  checkForRemoteCfg : PeriodicTimer
  retransmit : PeriodicTimer
  retransmit2 : PeriodicTimer
  mqtt : PeriodicTimer
  sendStatistics : PeriodicTimer
  defaultIntervalMs1 : UInt32
  defaultIntervalMs2 : UInt32
  deriving DecidableEq

/-- `adv_post_timer_restart_from_current_moment`. -/
def advPostTimerRestartFromCurrentMoment (t : PeriodicTimer) (periodMs : UInt32) :
    PeriodicTimer :=
  (t.setPeriod (pdMsToTicks (lit periodMs)).eval).relaunch

/-- `main_task_configure_periodic_remote_cfg_check`. -/
def mainTaskConfigurePeriodicRemoteCfgCheck (r : Remote) (s : State) : State :=
  if r.useRemoteCfg then
    if r.refreshIntervalMinutes ≠ 0 then
      { s with checkForRemoteCfg :=
          s.checkForRemoteCfg.restartWithPeriod (remoteCfgPeriod r.refreshIntervalMinutes).eval }
    else { s with checkForRemoteCfg := s.checkForRemoteCfg.stop }
  else { s with checkForRemoteCfg := s.checkForRemoteCfg.stop }

section cfg

variable [Components]

/-- `adv_post_on_gw_cfg_change`. -/
def advPostOnGwCfgChange (c : Ruuvi) (s : State) : State :=
  let retransmit :=
    if c.http.useHttpRuuvi then
      advPostTimerRestartFromCurrentMoment s.retransmit s.defaultIntervalMs1
    else s.retransmit.stop
  let defaultIntervalMs2 :=
    if c.http.useHttp then (httpPeriodMs c.http.httpPeriod).eval else s.defaultIntervalMs2
  let retransmit2 :=
    if c.http.useHttp then advPostTimerRestartFromCurrentMoment s.retransmit2 defaultIntervalMs2
    else s.retransmit2.stop
  let mqtt :=
    if c.mqtt.useMqtt ∧ c.mqtt.mqttSendingInterval ≠ 0 then
      s.mqtt.restartWithPeriod (mqttPeriod c.mqtt.mqttSendingInterval).eval
    else s.mqtt.stop
  let sendStatistics :=
    if c.httpStat.useHttpStat then s.sendStatistics.relaunch else s.sendStatistics.stop
  { s with retransmit, retransmit2, mqtt, sendStatistics, defaultIntervalMs2 }

/-- What the main task and the task `adv_post` do when the configuration has changed; each has
timers of its own. -/
def onGwCfgChange (c : Ruuvi) (s : State) : State :=
  advPostOnGwCfgChange c (mainTaskConfigurePeriodicRemoteCfgCheck c.remote s)

/-- The timers have the periods of the configuration. -/
structure ExactPeriods (c : Ruuvi) (s : State) : Prop where
  remote : c.remote.useRemoteCfg = true → c.remote.refreshIntervalMinutes ≠ 0 →
    ExactPeriod (remoteCfgPeriod c.remote.refreshIntervalMinutes) s.checkForRemoteCfg.period
      (c.remote.refreshIntervalMinutes.toNat * timeUnitsSecondsPerMinute.toNat)
  http : c.http.useHttp = true →
    ExactPeriod (pdMsToTicks (httpPeriodMs c.http.httpPeriod)) s.retransmit2.period
      c.http.httpPeriod.toNat
  mqtt : c.mqtt.useMqtt = true → c.mqtt.mqttSendingInterval ≠ 0 →
    ExactPeriod (mqttPeriod c.mqtt.mqttSendingInterval) s.mqtt.period
      c.mqtt.mqttSendingInterval.toNat

variable (c : Ruuvi) (s : State)

theorem remote_period (huse : c.remote.useRemoteCfg = true)
    (hne : c.remote.refreshIntervalMinutes ≠ 0) :
    (onGwCfgChange c s).checkForRemoteCfg.period =
      (remoteCfgPeriod c.remote.refreshIntervalMinutes).eval := by
  simp only [onGwCfgChange, advPostOnGwCfgChange, mainTaskConfigurePeriodicRemoteCfgCheck, huse,
    if_true, if_pos hne]
  rfl

theorem http_period (huse : c.http.useHttp = true) :
    (onGwCfgChange c s).retransmit2.period =
      (pdMsToTicks (httpPeriodMs c.http.httpPeriod)).eval := by
  simp only [onGwCfgChange, advPostOnGwCfgChange, huse, if_true]
  rfl

theorem mqtt_period (huse : c.mqtt.useMqtt = true) (hne : c.mqtt.mqttSendingInterval ≠ 0) :
    (onGwCfgChange c s).mqtt.period = (mqttPeriod c.mqtt.mqttSendingInterval).eval := by
  simp only [onGwCfgChange, advPostOnGwCfgChange, if_pos (And.intro huse hne)]
  rfl

/-- **When the timers have the periods of the configuration.**  The remote configuration may be
read every 71 minutes at most, and the custom server be posted to every 4294 seconds; the
interval of MQTT has to be below 2³² milliseconds. -/
theorem exactPeriods_iff :
    ExactPeriods c (onGwCfgChange c s) ↔
      (c.remote.useRemoteCfg = true → c.remote.refreshIntervalMinutes.toNat ≤ 71) ∧
      (c.http.useHttp = true → c.http.httpPeriod.toNat ≤ 4294) ∧
      (c.mqtt.useMqtt = true → c.mqtt.mqttSendingInterval.toNat ≤ 4294967) := by
  constructor
  · intro h
    refine ⟨fun huse => ?_, fun huse => ?_, fun huse => ?_⟩
    · by_cases hzero : c.remote.refreshIntervalMinutes = 0
      · simp [hzero]
      · have hexact := h.remote huse hzero
        rw [remote_period c s huse hzero] at hexact
        exact (exactPeriod_remote _).mp hexact
    · have hexact := h.http huse
      rw [http_period c s huse] at hexact
      exact (exactPeriod_http _).mp hexact
    · by_cases hzero : c.mqtt.mqttSendingInterval = 0
      · simp [hzero]
      · have hexact := h.mqtt huse hzero
        rw [mqtt_period c s huse hzero] at hexact
        exact (exactPeriod_mqtt _).mp hexact
  · rintro ⟨hremote, hhttp, hmqtt⟩
    refine ⟨fun huse hne => ?_, fun huse => ?_, fun huse hne => ?_⟩
    · rw [remote_period c s huse hne]
      exact (exactPeriod_remote _).mpr (hremote huse)
    · rw [http_period c s huse]
      exact (exactPeriod_http _).mpr (hhttp huse)
    · rw [mqtt_period c s huse hne]
      exact (exactPeriod_mqtt _).mpr (hmqtt huse)

end cfg

open Sample

/-- The remote configuration is to be read every 72 minutes. -/
def remoteCfgEvery72Minutes : CJson.Json := .object [
  ("remote_cfg_use", .bool true),
  ("remote_cfg_url", lit "https://example.com/cfg"),
  ("remote_cfg_refresh_interval_minutes", num 72)]

/-- It is read every 25 seconds. -/
theorem remoteCfgEvery72Minutes_period :
    ∃ d c, gwCfgDefaultInit param = some d ∧
      gwCfgJsonParse (some d.ruuvi) remoteCfgEvery72Minutes d = some c ∧
      c.ruuvi.remote.useRemoteCfg = true ∧ c.ruuvi.remote.refreshIntervalMinutes = 72 ∧
      ∀ s, (onGwCfgChange c.ruuvi s).checkForRemoteCfg.period = 25032 ∧
        ¬ ExactPeriods c.ruuvi (onGwCfgChange c.ruuvi s) := by
  have hrun : (do
      let d ← gwCfgDefaultInit param
      let c ← gwCfgJsonParse (some d.ruuvi) remoteCfgEvery72Minutes d
      some (decide (c.ruuvi.remote.useRemoteCfg = true ∧
        c.ruuvi.remote.refreshIntervalMinutes = 72))) = some true := by decide +kernel
  simp only [Option.bind_eq_bind, Option.bind_eq_some_iff, Option.some.injEq,
    decide_eq_true_eq] at hrun
  obtain ⟨d, hd, c, hc, huse, hminutes⟩ := hrun
  have hne : c.ruuvi.remote.refreshIntervalMinutes ≠ 0 := by rw [hminutes]; decide
  refine ⟨d, c, hd, hc, huse, hminutes, fun s => ⟨?_, fun h => ?_⟩⟩
  · rw [remote_period _ s huse hne, hminutes]
    decide
  · have hno := (h.remote huse hne).noOverflow
    rw [hminutes] at hno
    exact absurd hno (by decide)

end Timers
end RuuviGateway
