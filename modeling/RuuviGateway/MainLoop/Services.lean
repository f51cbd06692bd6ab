import Mathlib.Tactic.Ring
import RuuviGateway.MainLoop.Suspensions

/-!
# The services follow the configuration

What the services do agrees with the configuration except while a restart is to come, and
except for what a handler has still to do or what a counter or a signal still announces:
`Ready` says so service by service.  Nothing but the handler of `RESTART_SERVICES` and the
reboot ends the wait for a restart, and both leave a state in which `Ready` holds whatever was
there before.

That a settled state has no remote configuration half stored follows from the counters, since
relaying is suspended for the time of the update.
-/

namespace RuuviGateway
namespace MainLoop

open TransitionSystem
open Relaying (Kind)

variable {μ ρ ν : Type} {s t : State μ ρ ν}

/-! ## Signals and counters -/

theorem due_send (sig x : Sig) (s : State μ ρ ν) :
    (s.send sig).due x = (decide (x = sig) || s.due x) := by
  by_cases h : x = sig
  · subst h
    simp [State.due, State.send]
  · simp [State.due, State.send, h]

theorem due_send_of_due {sig x : Sig} (h : s.due x = true) : (s.send sig).due x = true := by
  rw [due_send, h, Bool.or_true]

theorem due_send_self (sig : Sig) (s : State μ ρ ν) : (s.send sig).due sig = true := by
  simp [due_send]

theorem due_take {sig : Sig} (h : s.sent sig = true) (x : Sig) :
    State.due { s with
      sent := Function.update s.sent sig false
      taken := Function.update s.taken sig true } x = s.due x := by
  by_cases hx : x = sig
  · subst hx
    simp [State.due, h]
  · simp [State.due, hx]

theorem due_handled {sig x : Sig} (h : x ≠ sig) (s : State μ ρ ν) :
    State.due { s with taken := Function.update s.taken sig false } x = s.due x := by
  simp [State.due, h]

theorem due_notifyNow {r : State μ ρ ν × Bool} {x : Sig} (h : r.1.due x = true) :
    (notifyNow r).due x = true := by
  unfold notifyNow
  split
  · exact due_send_of_due h
  · exact h

theorem notifyLater_remote (r : State μ ρ ν × Bool) :
    (notifyLater r).remote = r.1.remote := by
  rw [notifyLater_eq]

theorem notifyLater_le (r : State μ ρ ν × Bool) :
    r.1.notifies ≤ if r.2 then r.1.notifies + 1 else r.1.notifies := by
  split <;> omega

/-- The counter of the suspensions of HTTP relaying counts who has suspended it. -/
def CountersOk (s : State μ ρ ν) : Prop :=
  s.cntRelayingViaHttpSuspended = s.held .relaying + s.held .httpRelaying + s.cfgMode.toNat +
    (decide (s.pc = .deactivated)).toNat + (decide (s.remote ≠ .idle)).toNat

/-! ## The services -/

/-- Relaying via MQTT is suspended, or `RELAYING_MODE_CHANGED` is on its way. -/
def Awaits (s : State μ ρ ν) : Prop :=
  0 < s.cntRelayingViaMqttSuspended ∨ 0 < s.notifies ∨ s.due .relayingModeChanged = true

/-- A check for firmware updates is scheduled or in progress. -/
def FwAlive (s : State μ ρ ν) : Prop :=
  s.timerCheckForFwUpdates = true ∨ s.fwCheckRequested = true ∨ s.fwCheckRunning = true ∨
    s.due .checkForFwUpdates = true ∨ s.due .scheduleNextCheckForFwUpdates = true ∨
    s.due .scheduleRetryCheckForFwUpdates = true

/-- A handler that has still to start the MQTT client. -/
def MainPc.startsMqtt : MainPc → Bool
  | .modeRead _ | .modeStart | .restartStopped | .restartRead _ | .restartStart => true
  | _ => false

/-- The handler of `RESTART_SERVICES`, before the timer for the remote configuration. -/
def MainPc.setsRemoteTimer : MainPc → Bool
  | .restartStopped | .restartRead _ | .restartStart | .restartRemote => true
  | _ => false

/-- The handler of `RESTART_SERVICES`, before the timer for the firmware updates. -/
def MainPc.setsFwTimer : MainPc → Bool
  | .restartStopped | .restartRead _ | .restartStart | .restartRemote | .restartFw => true
  | _ => false

/-- **The services agree with the configuration**, but for what a handler has still to do. -/
structure Ready (s : State μ ρ ν) : Prop where
  /-- The client was started with the current MQTT section. -/
  fresh : ∀ c, s.mqttClient = some c → s.cfg.ruuvi.mqtt.useMqtt = true ∧ c = s.cfg.ruuvi.mqtt
  /-- `use_mqtt` is as it was read. -/
  read : ∀ useMqtt, s.pc = .modeRead useMqtt ∨ s.pc = .restartRead useMqtt →
    s.cfg.ruuvi.mqtt.useMqtt = useMqtt
  start : s.pc = .modeStart ∨ s.pc = .restartStart → s.cfg.ruuvi.mqtt.useMqtt = true
  stop : s.pc = .modeStop → s.cfg.ruuvi.mqtt.useMqtt = true → Awaits s
  run : s.cfg.ruuvi.mqtt.useMqtt = true → s.mqttClient = none →
    s.mqttStartFailed = true ∨ Awaits s ∨ s.pc.startsMqtt = true
  remote : s.timerCheckForRemoteCfg = s.cfg.ruuvi.checksRemoteCfg ∨ s.pc.setsRemoteTimer = true
  fw : s.cfg.ruuvi.autoUpdateCycle ≠ .manual → FwAlive s ∨ s.pc.setsFwTimer = true

/-- The invariant: the services agree with the configuration unless a restart is to come. -/
def Following (s : State μ ρ ν) : Prop := s.restartToCome = false → Ready s

theorem restartToCome_iff :
    s.restartToCome = true ↔ s.due .restartServices = true ∨ s.cfgMode = true ∨
      s.pc = .deactivated ∨ s.rebootScheduled = true ∨ s.remote.modified = true := by
  simp [State.restartToCome, or_assoc]

theorem following_of_restart (h : t.restartToCome = true) : Following t :=
  fun hno => absurd (h.symm.trans hno) (by simp)

/-! ## Steps that leave the services alone -/

/-- What a step leaves as it was, as far as the services are concerned. -/
structure Frame (s t : State μ ρ ν) : Prop where
  ruuvi : t.cfg.ruuvi = s.cfg.ruuvi
  pc : t.pc = s.pc
  client : t.mqttClient = s.mqttClient
  failed : t.mqttStartFailed = s.mqttStartFailed
  remoteTimer : t.timerCheckForRemoteCfg = s.timerCheckForRemoteCfg
  cfgMode : t.cfgMode = s.cfgMode
  reboot : t.rebootScheduled = s.rebootScheduled
  remote : s.remote.modified = true → t.remote.modified = true
  restart : s.due .restartServices = true → t.due .restartServices = true
  awaits : Awaits s → Awaits t
  fwAlive : FwAlive s → FwAlive t

theorem Frame.restartToCome (h : Frame s t) (hs : s.restartToCome = true) :
    t.restartToCome = true := by
  rw [restartToCome_iff] at hs ⊢
  rw [h.cfgMode, h.pc, h.reboot]
  rcases hs with hdue | hcfg | hpc | hreboot | hremote
  · exact Or.inl (h.restart hdue)
  · exact Or.inr (Or.inl hcfg)
  · exact Or.inr (Or.inr (Or.inl hpc))
  · exact Or.inr (Or.inr (Or.inr (Or.inl hreboot)))
  · exact Or.inr (Or.inr (Or.inr (Or.inr (h.remote hremote))))

theorem Frame.ready (h : Frame s t) (hs : Ready s) : Ready t where
  fresh := by
    rw [h.client, h.ruuvi]
    exact hs.fresh
  read := by
    rw [h.pc, h.ruuvi]
    exact hs.read
  start := by
    rw [h.pc, h.ruuvi]
    exact hs.start
  stop := by
    rw [h.pc, h.ruuvi]
    exact fun hpc huse => h.awaits (hs.stop hpc huse)
  run := by
    rw [h.ruuvi, h.client, h.failed, h.pc]
    intro huse hclient
    rcases hs.run huse hclient with hfailed | hawaits | hpc
    · exact Or.inl hfailed
    · exact Or.inr (Or.inl (h.awaits hawaits))
    · exact Or.inr (Or.inr hpc)
  remote := by
    rw [h.remoteTimer, h.ruuvi, h.pc]
    exact hs.remote
  fw := by
    rw [h.ruuvi, h.pc]
    exact fun hauto => (hs.fw hauto).imp_left h.fwAlive

theorem Frame.following (h : Frame s t) (hs : Following s) : Following t := by
  intro hno
  cases hrestart : s.restartToCome with
  | true => exact absurd ((h.restartToCome hrestart).symm.trans hno) (by simp)
  | false => exact h.ready (hs hrestart)

/-- Nothing but signals and timers of other services changes, and what was due stays due. -/
theorem Frame.of_due {sent taken : Sig → Bool} {deactivate posting : Bool}
    (hdue : ∀ x, s.due x = true → (sent x || taken x) = true) :
    Frame s { s with
      sent := sent
      taken := taken
      timerDeactivateCfgMode := deactivate
      posting := posting } where
  ruuvi := rfl
  pc := rfl
  client := rfl
  failed := rfl
  remoteTimer := rfl
  cfgMode := rfl
  reboot := rfl
  remote := id
  restart := hdue .restartServices
  awaits h := h.imp_right fun h => h.imp_right (hdue .relayingModeChanged)
  fwAlive h :=
    h.imp_right fun h => h.imp_right fun h => h.imp_right fun h =>
      h.imp (hdue .checkForFwUpdates) fun h =>
        h.imp (hdue .scheduleNextCheckForFwUpdates) (hdue .scheduleRetryCheckForFwUpdates)

theorem Frame.send (sig : Sig) (s : State μ ρ ν) : Frame s (s.send sig) :=
  .of_due fun x hx => due_send_of_due (x := x) hx

theorem Frame.take {sig : Sig} (h : s.sent sig = true) :
    Frame s { s with
      sent := Function.update s.sent sig false
      taken := Function.update s.taken sig true } :=
  .of_due fun x hx => (due_take h x).trans hx

/-- A suspension by another task. -/
theorem Frame.suspend (kind : Kind) (s : State μ ρ ν) :
    Frame s (notifyLater (suspendRelaying kind s)) := by
  rw [notifyLater_eq]
  refine ⟨rfl, rfl, rfl, rfl, rfl, rfl, rfl, id, id, fun h => ?_, id⟩
  rcases h with hcnt | hnotifies | hdue
  · refine Or.inl ?_
    simp only [suspendRelaying]
    split <;> omega
  · exact Or.inr (Or.inl (hnotifies.trans_le (notifyLater_le (suspendRelaying kind s))))
  · exact Or.inr (Or.inr hdue)

/-- A resumption by another task: if it is the last one for MQTT, it notifies. -/
theorem Frame.resume (kind : Kind) (s : State μ ρ ν) :
    Frame s (notifyLater (resumeRelaying kind s)) := by
  rw [notifyLater_eq]
  refine ⟨rfl, rfl, rfl, rfl, rfl, rfl, rfl, id, id, fun h => ?_, id⟩
  rcases h with hcnt | hnotifies | hdue
  · by_cases hlast : kind.mqtt = true ∧ s.cntRelayingViaMqttSuspended = 1
    · refine Or.inr (Or.inl ?_)
      simp [resumeRelaying, hlast]
    · refine Or.inl ?_
      simp only [resumeRelaying]
      split
      · rename_i hkind
        have hne : s.cntRelayingViaMqttSuspended ≠ 1 := fun h => hlast ⟨hkind, h⟩
        omega
      · exact hcnt
  · exact Or.inr (Or.inl (hnotifies.trans_le (notifyLater_le (resumeRelaying kind s))))
  · exact Or.inr (Or.inr hdue)

/-- Who has suspended relaying is written down. -/
theorem Frame.held (held : Kind → Nat) (s : State μ ρ ν) : Frame s { s with held := held } :=
  ⟨rfl, rfl, rfl, rfl, rfl, rfl, rfl, id, id, id, id⟩

/-- A remote update goes on, and nothing was stored. -/
theorem Frame.phase (phase : RemotePhase) (h : s.remote.modified = false) :
    Frame s { s with remote := phase } :=
  ⟨rfl, rfl, rfl, rfl, rfl, rfl, rfl, fun hm => absurd (h.symm.trans hm) (by simp), id, id, id⟩

theorem Frame.timerDeactivateCfgMode (active : Bool) (s : State μ ρ ν) :
    Frame s { s with timerDeactivateCfgMode := active } :=
  .of_due fun _ => id

theorem Frame.postTimer (s : State μ ρ ν) :
    Frame s { s with posting := false, timerDeactivateCfgMode := true } :=
  .of_due fun _ => id

/-- The timer of the firmware check stops, and the check is requested. -/
theorem Frame.timerCheckForFwUpdatesFires (s : State μ ρ ν) :
    Frame s ({ s with timerCheckForFwUpdates := false }.send .checkForFwUpdates) :=
  ⟨rfl, rfl, rfl, rfl, rfl, rfl, rfl, id, (Frame.send .checkForFwUpdates s).restart,
    (Frame.send .checkForFwUpdates s).awaits,
    fun _ => Or.inr (Or.inr (Or.inr (Or.inl (due_send_self _ _))))⟩

/-- The requested check runs. -/
theorem Frame.fwCheckBegin (s : State μ ρ ν) :
    Frame s { s with fwCheckRequested := false, fwCheckRunning := true } :=
  ⟨rfl, rfl, rfl, rfl, rfl, rfl, rfl, id, id, id, fun _ => Or.inr (Or.inr (Or.inl rfl))⟩

/-- A check for firmware updates ends, and the next one is announced. -/
theorem Frame.fwCheckDone (success : Bool) (s : State μ ρ ν) :
    Frame s ({ s with fwCheckRunning := false }.send
      (if success then .scheduleNextCheckForFwUpdates else .scheduleRetryCheckForFwUpdates)) := by
  refine ⟨rfl, rfl, rfl, rfl, rfl, rfl, rfl, id, (Frame.send _ s).restart,
    (Frame.send _ s).awaits, fun _ => Or.inr (Or.inr (Or.inr (Or.inr ?_)))⟩
  cases success with
  | true => exact Or.inl (due_send_self _ _)
  | false => exact Or.inr (due_send_self _ _)

theorem Frame.notify (s : State μ ρ ν) :
    Frame s ({ s with notifies := s.notifies - 1 }.send .relayingModeChanged) :=
  ⟨rfl, rfl, rfl, rfl, rfl, rfl, rfl, id, (Frame.send .relayingModeChanged s).restart,
    fun _ => Or.inr (Or.inr (due_send_self _ _)), (Frame.send .relayingModeChanged s).fwAlive⟩

/-! ## The handlers -/

theorem due_untake {sig x : Sig} (h : x ≠ sig) : (s.untake sig).due x = s.due x :=
  due_handled h s

/-- A handler that leaves the services alone, and keeps the chain of the firmware updates. -/
theorem Frame.untake {sig : Sig} (hrestart : sig ≠ .restartServices)
    (hmode : sig ≠ .relayingModeChanged) {timer deactivate requested : Bool}
    (hfw : FwAlive s → FwAlive { s.untake sig with
      timerCheckForFwUpdates := timer
      timerDeactivateCfgMode := deactivate
      fwCheckRequested := requested }) :
    Frame s { s.untake sig with
      timerCheckForFwUpdates := timer
      timerDeactivateCfgMode := deactivate
      fwCheckRequested := requested } where
  ruuvi := rfl
  pc := rfl
  client := rfl
  failed := rfl
  remoteTimer := rfl
  cfgMode := rfl
  reboot := rfl
  remote := id
  restart h := (due_untake hrestart.symm).trans h
  awaits h := h.imp_right fun h => h.imp_right fun h => (due_untake hmode.symm).trans h
  fwAlive := hfw

/-- The signals that are not about firmware updates do not touch their chain. -/
theorem fwAlive_untake {sig : Sig} (hcheck : sig ≠ .checkForFwUpdates)
    (hnext : sig ≠ .scheduleNextCheckForFwUpdates)
    (hretry : sig ≠ .scheduleRetryCheckForFwUpdates) (h : FwAlive s) : FwAlive (s.untake sig) :=
  h.imp_right fun h => h.imp_right fun h => h.imp_right fun h =>
    h.imp (due_untake hcheck.symm).trans fun h =>
      h.imp (due_untake hnext.symm).trans (due_untake hretry.symm).trans

theorem ready_restartStopped (h : t.mqttClient = none) (hpc : t.pc = .restartStopped) :
    Ready t where
  fresh c hc := absurd (h.symm.trans hc) (by simp)
  read _ h := by simp [hpc] at h
  start h := by simp [hpc] at h
  stop h := by simp [hpc] at h
  run _ _ := by simp [hpc, MainPc.startsMqtt]
  remote := by simp [hpc, MainPc.setsRemoteTimer]
  fw _ := by simp [hpc, MainPc.setsFwTimer]

/-- The handler of `RELAYING_MODE_CHANGED` begins. -/
theorem Ready.modeRead (h : Ready s) (hpc : s.pc = .idle) :
    Ready { s.untake .relayingModeChanged with pc := .modeRead s.cfg.ruuvi.mqtt.useMqtt } where
  fresh := h.fresh
  read _ h := by
    rcases h with h | h
    · exact MainPc.modeRead.inj h
    · exact absurd h (by simp)
  start h := by simp at h
  stop h := by simp at h
  run _ _ := Or.inr (Or.inr rfl)
  remote := by
    refine h.remote.imp_right fun hset => ?_
    rw [hpc] at hset
    exact hset
  fw hauto := by
    rcases h.fw hauto with halive | hset
    · have hkept : FwAlive (s.untake .relayingModeChanged) :=
        fwAlive_untake (by decide) (by decide) (by decide) halive
      exact Or.inl hkept
    · rw [hpc] at hset
      exact absurd hset (by simp [MainPc.setsFwTimer])

theorem Following.modeRead (h : Following s) (hpc : s.pc = .idle) :
    Following { s.untake .relayingModeChanged with
      pc := .modeRead s.cfg.ruuvi.mqtt.useMqtt } := by
  intro hno
  refine (h ?_).modeRead hpc
  rw [← hno]
  simp [State.restartToCome, State.due, State.untake, hpc]

/-- **Every handler keeps the invariant** with its first part. -/
theorem Following.handleSig (h : Following s) {sig : Sig} (allowed : Bool) (hpc : s.pc = .idle) :
    Following (handleSig sig allowed (s.untake sig)) := by
  cases sig with
  | checkForFwUpdates =>
    simp only [MainLoop.handleSig]
    split
    · exact (Frame.untake (by simp) (by simp) fun _ => Or.inr (Or.inl rfl)).following h
    · refine Frame.following ?_ h
      refine ⟨rfl, rfl, rfl, rfl, rfl, rfl, rfl, id, fun hdue => ?_, fun hawaits => ?_, fun _ => ?_⟩
      · exact due_send_of_due ((due_untake (by decide)).trans hdue)
      · exact hawaits.imp_right fun h => h.imp_right fun h =>
          due_send_of_due ((due_untake (by decide)).trans h)
      · exact Or.inr (Or.inr (Or.inr (Or.inr (Or.inr (due_send_self _ _)))))
  | scheduleNextCheckForFwUpdates =>
    exact (Frame.untake (by simp) (by simp) fun _ => Or.inl rfl).following h
  | scheduleRetryCheckForFwUpdates =>
    exact (Frame.untake (by simp) (by simp) fun _ => Or.inl rfl).following h
  | activateCfgMode =>
    simp only [MainLoop.handleSig, handleActivateCfgMode]
    split
    · have hframe : Frame s (s.untake .activateCfgMode) :=
        .untake (by decide) (by decide) (fwAlive_untake (by decide) (by decide) (by decide))
      exact hframe.following h
    · rw [notifyNow_eq]
      exact following_of_restart (restartToCome_iff.mpr (Or.inr (Or.inl rfl)))
  | deactivateCfgMode =>
    have hfw : FwAlive s → FwAlive (s.untake .deactivateCfgMode) :=
      fwAlive_untake (by decide) (by decide) (by decide)
    have hframe : Frame s { s.untake .deactivateCfgMode with timerDeactivateCfgMode := false } :=
      .untake (by decide) (by decide) hfw
    simp only [MainLoop.handleSig, handleDeactivateCfgMode]
    split
    · exact hframe.following h
    · split
      · exact hframe.following h
      · exact following_of_restart (restartToCome_iff.mpr (Or.inr (Or.inr (Or.inl rfl))))
  | restartServices => exact fun _ => ready_restartStopped rfl rfl
  | checkForRemoteCfg =>
    have hframe : Frame s (s.untake .checkForRemoteCfg) :=
      .untake (by decide) (by decide) (fwAlive_untake (by decide) (by decide) (by decide))
    exact hframe.following h
  | relayingModeChanged => exact h.modeRead hpc

/-- A step inside a handler that says nothing about restarts. -/
theorem Following.main (h : Following s) {client : Option (MqttCfg μ)}
    {failed remoteTimer fwTimer : Bool} {pc : MainPc} (hpc : s.pc ≠ .deactivated)
    (hpc' : pc ≠ .deactivated)
    (hready : Ready s → Ready { s with
      mqttClient := client
      mqttStartFailed := failed
      timerCheckForRemoteCfg := remoteTimer
      timerCheckForFwUpdates := fwTimer
      pc := pc }) :
    Following { s with
      mqttClient := client
      mqttStartFailed := failed
      timerCheckForRemoteCfg := remoteTimer
      timerCheckForFwUpdates := fwTimer
      pc := pc } := by
  intro hno
  refine hready (h ?_)
  rw [← hno]
  simp [State.restartToCome, State.due, hpc, hpc']

/-- Starting the client, when `use_mqtt` is set. -/
theorem Ready.startMqtt (h : Ready s) {pc : MainPc} {client : Option (MqttCfg μ)} {failed : Bool}
    (hpc : s.pc = .modeStart ∧ pc = .idle ∨ s.pc = .restartStart ∧ pc = .restartRemote)
    (hclient : ∀ c, client = some c → s.mqttClient = some c ∨ c = s.cfg.ruuvi.mqtt)
    (hfailed : client = none → failed = true) :
    Ready { s with mqttClient := client, mqttStartFailed := failed, pc := pc } where
  fresh c hc := by
    rcases hclient c hc with hold | hnew
    · exact h.fresh c hold
    · exact ⟨h.start (hpc.imp And.left And.left), hnew⟩
  read _ h' := by
    rcases hpc with ⟨-, rfl⟩ | ⟨-, rfl⟩ <;> simp at h'
  start h' := by
    rcases hpc with ⟨-, rfl⟩ | ⟨-, rfl⟩ <;> simp at h'
  stop h' := by
    rcases hpc with ⟨-, rfl⟩ | ⟨-, rfl⟩ <;> simp at h'
  run _ hnone := Or.inl (hfailed hnone)
  remote := by
    refine h.remote.imp_right fun hset => ?_
    rcases hpc with ⟨hs, rfl⟩ | ⟨hs, rfl⟩ <;> simp_all [MainPc.setsRemoteTimer]
  fw hauto := by
    refine (h.fw hauto).imp_right fun hset => ?_
    rcases hpc with ⟨hs, rfl⟩ | ⟨hs, rfl⟩ <;> simp_all [MainPc.setsFwTimer]

theorem not_awaits_enabled (h : ¬ Awaits s) : s.isRelayingViaMqttEnabled = true := by
  have hcnt : ¬ 0 < s.cntRelayingViaMqttSuspended := fun hpos => h (Or.inl hpos)
  simp only [State.isRelayingViaMqttEnabled, beq_iff_eq]
  omega

/-- `RELAYING_MODE_CHANGED`: whether to start or to stop is decided. -/
theorem Ready.modeDecide (h : Ready s) {useMqtt : Bool} (hpc : s.pc = .modeRead useMqtt) :
    Ready { s with
      pc := if useMqtt && s.isRelayingViaMqttEnabled then
          (if s.mqttClient.isSome then .idle else .modeStart)
        else .modeStop } := by
  have huse := h.read useMqtt (Or.inl hpc)
  have hremote : s.timerCheckForRemoteCfg = s.cfg.ruuvi.checksRemoteCfg := by
    simpa [hpc, MainPc.setsRemoteTimer] using h.remote
  have hfw : s.cfg.ruuvi.autoUpdateCycle ≠ .manual → FwAlive s := by
    simpa [hpc, MainPc.setsFwTimer] using h.fw
  by_cases hstart : useMqtt = true ∧ s.isRelayingViaMqttEnabled = true
  · obtain ⟨rfl, hen⟩ := hstart
    by_cases hclient : s.mqttClient.isSome = true
    · simp only [hen, hclient, Bool.and_self, if_true]
      refine ⟨h.fresh, by simp, by simp, by simp, fun _ hnone => ?_, Or.inl hremote,
        fun hauto => Or.inl (hfw hauto)⟩
      have hno : s.mqttClient = none := hnone
      exact absurd hclient (by simp [hno])
    · simp only [hen, hclient, Bool.and_self, if_true, Bool.false_eq_true, if_false]
      exact ⟨h.fresh, by simp, fun _ => huse, by simp, fun _ _ => Or.inr (Or.inr rfl),
        Or.inl hremote, fun hauto => Or.inl (hfw hauto)⟩
  · have hstop : (useMqtt && s.isRelayingViaMqttEnabled) = false := by
      simpa using hstart
    have hawaits : s.cfg.ruuvi.mqtt.useMqtt = true → Awaits s := by
      intro hon
      by_contra hno
      exact hstart ⟨huse.symm.trans hon, not_awaits_enabled hno⟩
    simp only [hstop, Bool.false_eq_true, if_false]
    exact ⟨h.fresh, by simp, by simp, fun _ hon => hawaits hon,
      fun hon _ => Or.inr (Or.inl (hawaits hon)), Or.inl hremote, fun hauto => Or.inl (hfw hauto)⟩

/-- `RESTART_SERVICES`: whether to start is decided. -/
theorem Ready.restartDecide (h : Ready s) {useMqtt : Bool} (hpc : s.pc = .restartRead useMqtt) :
    Ready { s with
      pc := if useMqtt && s.isRelayingViaMqttEnabled then .restartStart else .restartRemote } := by
  have huse := h.read useMqtt (Or.inr hpc)
  by_cases hstart : useMqtt = true ∧ s.isRelayingViaMqttEnabled = true
  · obtain ⟨rfl, hen⟩ := hstart
    simp only [hen, Bool.and_self, if_true]
    exact ⟨h.fresh, by simp, fun _ => huse, by simp, fun _ _ => Or.inr (Or.inr rfl),
      Or.inr rfl, fun _ => Or.inr rfl⟩
  · have hskip : (useMqtt && s.isRelayingViaMqttEnabled) = false := by
      simpa using hstart
    simp only [hskip, Bool.false_eq_true, if_false]
    refine ⟨h.fresh, by simp, by simp, by simp, fun hon _ => Or.inr (Or.inl ?_),
      Or.inr rfl, fun _ => Or.inr rfl⟩
    by_contra hno
    exact hstart ⟨huse.symm.trans hon, not_awaits_enabled hno⟩

/-- **Every part of a handler keeps the invariant.** -/
theorem Following.continueHandler (h : Following s) {ok : Bool}
    (hstep : continueHandler ok s = some t) : Following t := by
  unfold MainLoop.continueHandler at hstep
  split at hstep
  next => exact absurd hstep (by simp)
  next useMqtt hpc =>
    refine Option.some.inj hstep ▸ h.main (by simp [hpc]) ?_ fun hs => hs.modeDecide hpc
    split
    · split <;> simp
    · simp
  next hpc =>
    obtain ⟨client, failed, hstart, hclient, hfailed⟩ := mqttAppStartWithGwCfg_spec ok s
    rw [hstart] at hstep
    exact Option.some.inj hstep ▸ h.main (by simp [hpc]) (by simp) fun hs =>
      hs.startMqtt (Or.inl ⟨hpc, rfl⟩) hclient hfailed
  next hpc =>
    refine Option.some.inj hstep ▸ h.main (by simp [hpc]) (by simp) fun hs => ?_
    have hfw : s.cfg.ruuvi.autoUpdateCycle ≠ .manual → FwAlive s := by
      simpa [hpc, MainPc.setsFwTimer] using hs.fw
    refine ⟨by simp, by simp, by simp, by simp, fun hon _ => Or.inr (Or.inl (hs.stop hpc hon)),
      ?_, fun hauto => Or.inl (hfw hauto)⟩
    simpa [hpc, MainPc.setsRemoteTimer] using hs.remote
  next hpc =>
    refine Option.some.inj hstep ▸ h.main (by simp [hpc]) (by simp) fun hs => ?_
    refine ⟨hs.fresh, ?_, by simp, by simp, fun _ _ => Or.inr (Or.inr rfl), Or.inr rfl,
      fun _ => Or.inr rfl⟩
    simp
  next useMqtt hpc =>
    refine Option.some.inj hstep ▸ h.main (by simp [hpc]) ?_ fun hs => hs.restartDecide hpc
    split <;> simp
  next hpc =>
    obtain ⟨client, failed, hstart, hclient, hfailed⟩ := mqttAppStartWithGwCfg_spec ok s
    rw [hstart] at hstep
    exact Option.some.inj hstep ▸ h.main (by simp [hpc]) (by simp) fun hs =>
      hs.startMqtt (Or.inr ⟨hpc, rfl⟩) hclient hfailed
  next hpc =>
    refine Option.some.inj hstep ▸ h.main (by simp [hpc]) (by simp) fun hs => ?_
    have hrun : s.cfg.ruuvi.mqtt.useMqtt = true → s.mqttClient = none →
        s.mqttStartFailed = true ∨ Awaits s := by
      simpa [hpc, MainPc.startsMqtt] using hs.run
    exact ⟨hs.fresh, by simp, by simp, by simp, fun hon hnone => (hrun hon hnone).imp_right Or.inl,
      Or.inl rfl, fun _ => Or.inr rfl⟩
  next hpc =>
    refine Option.some.inj hstep ▸ h.main (by simp [hpc]) (by simp) fun hs => ?_
    have hrun : s.cfg.ruuvi.mqtt.useMqtt = true → s.mqttClient = none →
        s.mqttStartFailed = true ∨ Awaits s := by
      simpa [hpc, MainPc.startsMqtt] using hs.run
    refine ⟨hs.fresh, by simp, by simp, by simp, fun hon hnone => (hrun hon hnone).imp_right Or.inl,
      ?_, fun hauto => Or.inl (Or.inl (decide_eq_true hauto))⟩
    simpa [hpc, MainPc.setsRemoteTimer] using hs.remote
  next hpc =>
    have hdue : (notifyNow (resumeRelaying .relaying (s.send .restartServices))).due
        .restartServices = true := due_notifyNow (due_send_self .restartServices s)
    exact Option.some.inj hstep ▸ following_of_restart (restartToCome_iff.mpr (Or.inl hdue))

/-! ## Configuration changes -/

section store

variable {cmpRuuvi : RuuviCfg μ ρ → RuuviCfg μ ρ → Bool} {cmpNetwork : ν → ν → Bool}

theorem storeRuuvi_of_same {new : RuuviCfg μ ρ} {c : Cfg μ ρ ν}
    (h : cmpRuuvi c.ruuvi new = true) : (storeRuuvi cmpRuuvi new c).ruuvi = c.ruuvi := by
  simp [storeRuuvi, GwCfg.setSection, h]

/-- Settings are stored that do not change, or while a restart is to come. -/
theorem Following.store (h : Following s) {cfg : Cfg μ ρ ν} {posting : Bool}
    {phase : RemotePhase} (hphase : s.remote.modified = true → phase.modified = true)
    (hcfg : s.restartToCome = true ∨ phase.modified = true ∨ cfg.ruuvi = s.cfg.ruuvi) :
    Following { s with cfg := cfg, posting := posting, remote := phase } := by
  rcases hcfg with hrestart | hmodified | hsame
  · refine following_of_restart (restartToCome_iff.mpr ?_)
    exact (restartToCome_iff.mp hrestart).imp_right fun h => h.imp_right fun h =>
      h.imp_right fun h => h.imp_right hphase
  · exact following_of_restart
      (restartToCome_iff.mpr (Or.inr (Or.inr (Or.inr (Or.inr hmodified)))))
  · exact Frame.following ⟨hsame, rfl, rfl, rfl, rfl, rfl, rfl, hphase, id, id, id⟩ h

theorem ready_init (cfg : Cfg μ ρ ν) (ok : Bool) : Ready (init cfg ok) where
  fresh c hc := by
    simp only [init, Option.ite_none_right_eq_some, Bool.and_eq_true] at hc
    exact ⟨hc.1.1, (Option.some.inj hc.2).symm⟩
  read _ h := by simp [init] at h
  start h := by simp [init] at h
  stop h := by simp [init] at h
  run hon hnone := by
    refine Or.inl ?_
    cases ok with
    | true => simp [init, show cfg.ruuvi.mqtt.useMqtt = true from hon] at hnone
    | false => simpa [init] using hon
  remote := Or.inl rfl
  fw hauto := Or.inl (Or.inl (decide_eq_true hauto))

/-! ### The check for a remote configuration -/

theorem Following.remoteBegin (h : Following s) (hidle : s.remote = .idle) :
    Following { notifyLater (suspendRelaying .httpRelaying s) with remote := .downloading } := by
  refine (Frame.phase _ ?_).following ((Frame.suspend .httpRelaying s).following h)
  rw [notifyLater_remote]
  exact congrArg RemotePhase.modified hidle

/-- What has been downloaded is stored: settings that change will be followed by a restart. -/
theorem Following.remoteStore (h : Following s) (hdown : s.remote = .downloading)
    (ruuvi : RuuviCfg μ ρ) (network : ν) :
    Following { s with
      cfg := storeNetwork cmpNetwork network (storeRuuvi cmpRuuvi ruuvi s.cfg)
      remote := .stored (!cmpRuuvi s.cfg.ruuvi ruuvi) (!cmpNetwork s.cfg.network network) } := by
  refine h.store (by simp [hdown, RemotePhase.modified]) (Or.inr ?_)
  by_cases hsame : cmpRuuvi s.cfg.ruuvi ruuvi = true
  · exact Or.inr (storeRuuvi_of_same hsame)
  · exact Or.inl (by simp [RemotePhase.modified, hsame])

/-- A reboot or a restart is asked for, if settings have changed. -/
theorem Following.remoteSignal (h : Following s)
    (hstep : MainLoop.step cmpRuuvi cmpNetwork s .remoteSignal = some t) : Following t := by
  simp only [MainLoop.step] at hstep
  split at hstep
  · exact Option.some.inj hstep ▸ following_of_restart (restartToCome_iff.mpr
      (Or.inr (Or.inr (Or.inr (Or.inl rfl)))))
  · exact Option.some.inj hstep ▸ following_of_restart (restartToCome_iff.mpr
      (Or.inl (due_send_self _ _)))
  · rename_i hstored
    exact Option.some.inj hstep ▸
      (Frame.phase _ (congrArg RemotePhase.modified hstored)).following h
  · exact absurd hstep (by simp)

theorem Following.remoteEnd (h : Following s) (hsignalled : s.remote = .signalled) :
    Following { notifyLater (resumeRelaying .httpRelaying s) with remote := .idle } := by
  refine (Frame.phase _ ?_).following ((Frame.resume .httpRelaying s).following h)
  rw [notifyLater_remote]
  exact congrArg RemotePhase.modified hsignalled

/-! ### All steps -/

/-- **Every admitted step keeps the invariant.** -/
theorem Following.step {a : Act μ ρ ν} (h : Following s)
    (hok : PostedBeforeRestart cmpRuuvi s a) (hstep : step cmpRuuvi cmpNetwork s a = some t) :
    Following t := by
  cases a with
  | send sig =>
    obtain ⟨-, rfl⟩ := Option.ite_some_none_eq_some.mp hstep
    exact (Frame.send sig s).following h
  | take sig =>
    obtain ⟨hcan, rfl⟩ := Option.ite_some_none_eq_some.mp hstep
    exact (Frame.take hcan.2).following h
  | handle sig allowed =>
    obtain ⟨hcan, rfl⟩ := Option.ite_some_none_eq_some.mp hstep
    exact h.handleSig allowed hcan.1
  | main ok => exact h.continueHandler hstep
  | timerDeactivateCfgModeFires =>
    obtain ⟨-, rfl⟩ := Option.ite_some_none_eq_some.mp hstep
    exact (Frame.send _ _).following ((Frame.timerDeactivateCfgMode false s).following h)
  | setTimerDeactivateCfgMode active =>
    exact Option.some.inj hstep ▸ (Frame.timerDeactivateCfgMode active s).following h
  | timerCheckForRemoteCfgFires =>
    obtain ⟨-, rfl⟩ := Option.ite_some_none_eq_some.mp hstep
    exact (Frame.send _ _).following h
  | timerCheckForFwUpdatesFires =>
    obtain ⟨-, rfl⟩ := Option.ite_some_none_eq_some.mp hstep
    exact (Frame.timerCheckForFwUpdatesFires s).following h
  | fwCheckBegin =>
    obtain ⟨-, rfl⟩ := Option.ite_some_none_eq_some.mp hstep
    exact (Frame.fwCheckBegin s).following h
  | fwCheckDone success =>
    obtain ⟨-, rfl⟩ := Option.ite_some_none_eq_some.mp hstep
    exact (Frame.fwCheckDone success s).following h
  | suspend kind =>
    exact Option.some.inj hstep ▸ (Frame.held _ _).following ((Frame.suspend kind s).following h)
  | resume kind =>
    obtain ⟨-, rfl⟩ := Option.ite_some_none_eq_some.mp hstep
    exact (Frame.held _ _).following ((Frame.resume kind s).following h)
  | notify =>
    obtain ⟨-, rfl⟩ := Option.ite_some_none_eq_some.mp hstep
    exact (Frame.notify s).following h
  | postRuuvi new =>
    exact Option.some.inj hstep ▸
      h.store id (hok.imp_right fun hsame => Or.inr (storeRuuvi_of_same hsame))
  | postTimer =>
    obtain ⟨-, rfl⟩ := Option.ite_some_none_eq_some.mp hstep
    exact (Frame.postTimer s).following h
  | postNetwork new => exact Option.some.inj hstep ▸ h.store id (Or.inr (Or.inr rfl))
  | remoteBegin =>
    obtain ⟨hidle, rfl⟩ := Option.ite_some_none_eq_some.mp hstep
    exact h.remoteBegin hidle
  | remoteFail =>
    obtain ⟨hdown, rfl⟩ := Option.ite_some_none_eq_some.mp hstep
    exact (Frame.phase _ (congrArg RemotePhase.modified hdown)).following h
  | remoteStore ruuvi network =>
    obtain ⟨hdown, rfl⟩ := Option.ite_some_none_eq_some.mp hstep
    exact h.remoteStore hdown ruuvi network
  | remoteSignal => exact h.remoteSignal hstep
  | remoteEnd =>
    obtain ⟨hsignalled, rfl⟩ := Option.ite_some_none_eq_some.mp hstep
    exact h.remoteEnd hsignalled
  | reboot ok =>
    obtain ⟨-, rfl⟩ := Option.ite_some_none_eq_some.mp hstep
    exact fun _ => ready_init s.cfg ok

end store

/-! ## The counters -/

theorem Counted.countersOk (h : Counted s) : CountersOk s := by
  have hpc : s.pc.resumes = decide (s.pc = .deactivated) := by
    cases s.pc <;> rfl
  have hremote : s.remote.suspends = decide (s.remote ≠ .idle) := by
    cases s.remote <;> rfl
  have hhttp := h.http
  rw [State.suspensions_relaying, State.suspensions_httpRelaying, hpc, hremote] at hhttp
  unfold CountersOk
  omega

/-! ## Runs -/

section runs

variable {cmpRuuvi : RuuviCfg μ ρ → RuuviCfg μ ρ → Bool} {cmpNetwork : ν → ν → Bool}

theorem following_of_reachable
    (h : (system cmpRuuvi cmpNetwork).ReachableVia (PostedBeforeRestart cmpRuuvi) s) :
    Following s := by
  refine h.invariant (P := Following) ?_ fun _ _ _ _ hu hok hstep => hu.step hok hstep
  rintro u ⟨cfg, ok, rfl⟩
  exact fun _ => ready_init cfg ok

theorem countersOk_of_reachable
    (h : (system cmpRuuvi cmpNetwork).ReachableVia (PostedBeforeRestart cmpRuuvi) s) :
    CountersOk s := by
  refine (h.invariant (P := Counted) ?_ fun _ _ _ _ hu _ hstep => hu.step hstep).countersOk
  rintro u ⟨cfg, ok, rfl⟩
  exact counted_init cfg ok

/-- Nothing is left to wait for in a settled state but the reboot. -/
theorem Settled.no_restartToCome (h : Settled s) (hcnt : CountersOk s)
    (hreboot : s.rebootScheduled = false) : s.restartToCome = false := by
  have hremote : s.remote = .idle := by
    by_contra hne
    rw [CountersOk, h.cntHttp] at hcnt
    simp [hne] at hcnt
  simp [State.restartToCome, h.due, h.cfgMode, h.pc, hreboot, hremote, RemotePhase.modified]

theorem Settled.not_awaits (h : Settled s) : ¬ Awaits s := by
  simp [Awaits, h.cntMqtt, h.notifies, h.due]

/-- What is ready has settled on the configuration when nothing is left to do. -/
theorem Ready.servicesFollow (h : Ready s) (hs : Settled s) : ServicesFollow s where
  mqtt := by
    cases hclient : s.mqttClient with
    | none =>
      have hoff : ¬ s.cfg.ruuvi.mqtt.useMqtt = true := by
        intro hon
        rcases h.run hon hclient with hfailed | hawaits | hpc
        · exact absurd (hs.started.symm.trans hfailed) (by simp)
        · exact hs.not_awaits hawaits
        · rw [hs.pc] at hpc
          exact absurd hpc (by simp [MainPc.startsMqtt])
      rw [if_neg hoff]
    | some c =>
      obtain ⟨hon, hc⟩ := h.fresh c hclient
      rw [if_pos hon, hc]
  remote := by
    rcases h.remote with htimer | hpc
    · exact htimer
    · rw [hs.pc] at hpc
      exact absurd hpc (by simp [MainPc.setsRemoteTimer])
  fw hauto := by
    rcases h.fw hauto with halive | hpc
    · simpa [FwAlive, hs.due, or_assoc] using halive
    · rw [hs.pc] at hpc
      exact absurd hpc (by simp [MainPc.setsFwTimer])

/-- **The services follow the configuration** in every settled state in which no reboot is
scheduled, if Ruuvi settings are only posted while a restart is to come. -/
theorem servicesFollow_of_postedBeforeRestart
    (h : (system cmpRuuvi cmpNetwork).ReachableVia (PostedBeforeRestart cmpRuuvi) s)
    (hs : Settled s) (hreboot : s.rebootScheduled = false) : ServicesFollow s := by
  have hno := hs.no_restartToCome (countersOk_of_reachable h) hreboot
  exact (following_of_reachable h hno).servicesFollow hs

end runs

/-! ## Examples of runs -/

section examples

/-- Settings with the MQTT section `params`. -/
def sampleCfg (params : Nat) : RuuviCfg Nat Unit :=
  ⟨⟨true, params⟩, true, 30, .regular, ()⟩

/-- The system with the comparisons that compare everything. -/
def sample : System (State Nat Unit Nat) (Act Nat Unit Nat) :=
  system (fun a b => decide (a = b)) fun a b => decide (a = b)

def sampleInit : State Nat Unit Nat := init ⟨sampleCfg 0, 0, false⟩ true

/-- The main task takes a signal and handles it, with `parts` more parts of the handler. -/
def handleRun (sig : Sig) (parts : Nat) : List (Act Nat Unit Nat) :=
  [.take sig, .handle sig true] ++ List.replicate parts (.main true)

/-- New settings are posted in configuration mode, which ends afterwards. -/
def postRun : List (Act Nat Unit Nat) :=
  .send .activateCfgMode :: handleRun .activateCfgMode 0 ++ handleRun .relayingModeChanged 2 ++
    [.postRuuvi (sampleCfg 1), .postTimer, .timerDeactivateCfgModeFires] ++
    handleRun .deactivateCfgMode 1 ++ handleRun .restartServices 5 ++
    handleRun .relayingModeChanged 1

theorem servicesFollow_of_postRun :
    ∃ s : State Nat Unit Nat, s.mqttClient = some ⟨true, 1⟩ ∧ ServicesFollow s := by
  have hinit : sample.init sampleInit := ⟨_, _, rfl⟩
  obtain ⟨s, hs, hp⟩ := System.exists_reachableVia_of_run
    (C := PostedBeforeRestart fun a b => decide (a = b)) hinit postRun
    (fun s => decide (s.mqttClient = some ⟨true, 1⟩ ∧ Settled s ∧ s.rebootScheduled = false))
    (by decide)
  obtain ⟨hclient, hsettled, hreboot⟩ := of_decide_eq_true hp
  exact ⟨s, hclient, servicesFollow_of_postedBeforeRestart hs hsettled hreboot⟩

/-- **The services can be left behind**: a remote configuration with other network settings
makes the gateway reboot instead of restarting the services; and settings that are posted
while configuration mode is not active are followed by no restart at all. -/
theorem services_left_behind :
    (∃ s, sample.Reachable s ∧ Settled s ∧ s.rebootScheduled = true ∧ ¬ ServicesFollow s) ∧
    ∃ s, sample.Reachable s ∧ Settled s ∧ s.rebootScheduled = false ∧ ¬ ServicesFollow s := by
  have hinit : sample.init sampleInit := ⟨_, _, rfl⟩
  constructor
  · obtain ⟨s, hs, hp⟩ := System.exists_reachable_of_run hinit
      ([.remoteBegin, .notify, .remoteStore (sampleCfg 1) 1, .remoteSignal, .remoteEnd,
        .notify] ++ handleRun .relayingModeChanged 1)
      (fun s => decide (Settled s ∧ s.rebootScheduled = true ∧ ¬ ServicesFollow s)) (by decide)
    exact ⟨s, hs, of_decide_eq_true hp⟩
  · obtain ⟨s, hs, hp⟩ := System.exists_reachable_of_run hinit
      ([.postRuuvi (sampleCfg 1), .postTimer, .timerDeactivateCfgModeFires] ++
        handleRun .deactivateCfgMode 0)
      (fun s => decide (Settled s ∧ s.rebootScheduled = false ∧ ¬ ServicesFollow s)) (by decide)
    exact ⟨s, hs, of_decide_eq_true hp⟩

end examples

end MainLoop
end RuuviGateway
