import RuuviGateway.MainLoop.Model

/-!
# Who has suspended relaying

The counters of `gw_status.c` say how often relaying is suspended, but not by whom.  Here the
suspensions are written down by kind: the calls of other tasks, the remote update of the HTTP
server, and configuration mode.

A step suspends relaying once, resumes it once, or leaves the counters alone, unless the
gateway reboots (`step_counterMove`).  So the counters count who has suspended it (`Counted`).
-/

namespace RuuviGateway
namespace MainLoop

open TransitionSystem
open Relaying (Kind)

variable {μ ρ ν : Type} {s t : State μ ρ ν}

theorem notifyNow_eq (r : State μ ρ ν × Bool) :
    notifyNow r = { r.1 with
      sent := if r.2 then Function.update r.1.sent .relayingModeChanged true else r.1.sent } := by
  unfold notifyNow State.send
  split <;> rfl

theorem notifyLater_eq (r : State μ ρ ν × Bool) :
    notifyLater r = { r.1 with
      notifies := if r.2 then r.1.notifies + 1 else r.1.notifies } := by
  unfold notifyLater
  split <;> rfl

/-- The signal is taken off before its handler runs. -/
def State.untake (sig : Sig) (s : State μ ρ ν) : State μ ρ ν :=
  { s with taken := Function.update s.taken sig false }

/-- What `mqtt_app_start` leaves: a client or the mark that it failed. -/
theorem mqttAppStartWithGwCfg_spec (ok : Bool) (s : State μ ρ ν) :
    ∃ client failed, mqttAppStartWithGwCfg ok s =
        { s with mqttClient := client, mqttStartFailed := failed } ∧
      (∀ c, client = some c → s.mqttClient = some c ∨ c = s.cfg.ruuvi.mqtt) ∧
      (client = none → failed = true) := by
  unfold mqttAppStartWithGwCfg
  split
  · rename_i c hc
    exact ⟨some c, s.mqttStartFailed, by rw [← hc], fun c' h => Or.inl (hc.trans h), by simp⟩
  · cases ok with
    | true => exact ⟨_, _, rfl, fun c h => Or.inr (Option.some.inj h).symm, by simp⟩
    | false => exact ⟨s.mqttClient, true, rfl, fun c h => Or.inl h, fun _ => rfl⟩

/-! ## The suspensions -/

/-- The handler of `DEACTIVATE_CFG_MODE` has cleared the bit and has still to resume
relaying. -/
def MainPc.resumes : MainPc → Bool
  | .deactivated => true
  | _ => false

/-- Relaying via HTTP is suspended for the remote update. -/
def RemotePhase.suspends : RemotePhase → Bool
  | .idle => false
  | _ => true

/-- The suspensions by other tasks that have not been resumed. -/
def State.otherSuspensions (s : State μ ρ ν) : Kind → Nat
  | .relaying => s.held .relaying
  | .httpRelaying => s.held .httpRelaying + s.remote.suspends.toNat

/-- The suspensions by configuration mode. -/
def State.cfgModeSuspensions (s : State μ ρ ν) : Nat := s.cfgMode.toNat + s.pc.resumes.toNat

/-- All of them. -/
def State.suspensions (s : State μ ρ ν) : Kind → Nat
  | .relaying => s.otherSuspensions .relaying + s.cfgModeSuspensions
  | .httpRelaying => s.otherSuspensions .httpRelaying

theorem State.suspensions_relaying (s : State μ ρ ν) :
    s.suspensions .relaying = s.held .relaying + (s.cfgMode.toNat + s.pc.resumes.toNat) := rfl

theorem State.suspensions_httpRelaying (s : State μ ρ ν) :
    s.suspensions .httpRelaying = s.held .httpRelaying + s.remote.suspends.toNat := rfl

/-- **The counters count the suspensions.** -/
structure Counted (s : State μ ρ ν) : Prop where
  http : s.cntRelayingViaHttpSuspended = s.suspensions .relaying + s.suspensions .httpRelaying
  mqtt : s.cntRelayingViaMqttSuspended = s.suspensions .relaying

theorem counted_init (cfg : Cfg μ ρ ν) (ok : Bool) : Counted (init cfg ok) := ⟨rfl, rfl⟩

/-! ## What a step does to the counters -/

/-- One more suspension of a kind. -/
def Suspended (kind : Kind) (s t : State μ ρ ν) : Prop :=
  t.suspensions kind = s.suspensions kind + 1 ∧
    ∀ other, other ≠ kind → t.suspensions other = s.suspensions other

/-- The counters and the suspensions around a step. -/
inductive CounterMove (s t : State μ ρ ν) : Prop where
  | same (http : t.cntRelayingViaHttpSuspended = s.cntRelayingViaHttpSuspended)
      (mqtt : t.cntRelayingViaMqttSuspended = s.cntRelayingViaMqttSuspended)
      (suspensions : t.suspensions = s.suspensions)
  | suspend (kind : Kind)
      (http : t.cntRelayingViaHttpSuspended =
        (suspendRelaying kind s).1.cntRelayingViaHttpSuspended)
      (mqtt : t.cntRelayingViaMqttSuspended =
        (suspendRelaying kind s).1.cntRelayingViaMqttSuspended)
      (suspensions : Suspended kind s t)
  | resume (kind : Kind)
      (http : t.cntRelayingViaHttpSuspended =
        (resumeRelaying kind s).1.cntRelayingViaHttpSuspended)
      (mqtt : t.cntRelayingViaMqttSuspended =
        (resumeRelaying kind s).1.cntRelayingViaMqttSuspended)
      (suspensions : Suspended kind t s)
  | reboot (counted : Counted t)

/-- **A move keeps the count.** -/
theorem Counted.move (h : Counted s) (hmove : CounterMove s t) : Counted t := by
  obtain ⟨hhttp, hmqtt⟩ := h
  cases hmove with
  | same http mqtt suspensions =>
    exact ⟨by rw [http, suspensions, hhttp], by rw [mqtt, suspensions, hmqtt]⟩
  | suspend kind http mqtt suspensions =>
    obtain ⟨hone, hother⟩ := suspensions
    cases kind with
    | relaying =>
      have hsame := hother .httpRelaying (by decide)
      simp only [suspendRelaying, Kind.mqtt, if_true] at http mqtt
      exact ⟨by omega, by omega⟩
    | httpRelaying =>
      have hsame := hother .relaying (by decide)
      simp only [suspendRelaying, Kind.mqtt, Bool.false_eq_true, if_false] at http mqtt
      exact ⟨by omega, by omega⟩
  | resume kind http mqtt suspensions =>
    obtain ⟨hone, hother⟩ := suspensions
    cases kind with
    | relaying =>
      have hsame := hother .httpRelaying (by decide)
      simp only [resumeRelaying, Kind.mqtt, if_true] at http mqtt
      exact ⟨by omega, by omega⟩
    | httpRelaying =>
      have hsame := hother .relaying (by decide)
      simp only [resumeRelaying, Kind.mqtt, Bool.false_eq_true, if_false] at http mqtt
      exact ⟨by omega, by omega⟩
  | reboot counted => exact counted

/-- Where the main task stands, and how far the remote update is, count only as far as
relaying is suspended for them. -/
theorem CounterMove.frame
    (hhttp : t.cntRelayingViaHttpSuspended = s.cntRelayingViaHttpSuspended)
    (hmqtt : t.cntRelayingViaMqttSuspended = s.cntRelayingViaMqttSuspended)
    (hheld : t.held = s.held) (hcfg : t.cfgMode = s.cfgMode)
    (hpc : t.pc.resumes = s.pc.resumes) (hremote : t.remote.suspends = s.remote.suspends) :
    CounterMove s t := by
  refine .same hhttp hmqtt (funext fun kind => ?_)
  cases kind with
  | relaying => rw [State.suspensions_relaying, State.suspensions_relaying, hheld, hcfg, hpc]
  | httpRelaying =>
    rw [State.suspensions_httpRelaying, State.suspensions_httpRelaying, hheld, hremote]

theorem suspended_relaying
    (hrelaying : t.held .relaying + (t.cfgMode.toNat + t.pc.resumes.toNat) =
      s.held .relaying + (s.cfgMode.toNat + s.pc.resumes.toNat) + 1)
    (hhttp : t.suspensions .httpRelaying = s.suspensions .httpRelaying) :
    Suspended .relaying s t := by
  refine ⟨hrelaying, fun other hother => ?_⟩
  cases other with
  | relaying => exact absurd rfl hother
  | httpRelaying => exact hhttp

theorem suspended_httpRelaying
    (hhttp : t.held .httpRelaying + t.remote.suspends.toNat =
      s.held .httpRelaying + s.remote.suspends.toNat + 1)
    (hrelaying : t.suspensions .relaying = s.suspensions .relaying) :
    Suspended .httpRelaying s t := by
  refine ⟨hhttp, fun other hother => ?_⟩
  cases other with
  | relaying => exact hrelaying
  | httpRelaying => exact absurd rfl hother

/-! ## The steps -/

theorem counterMove_suspend (kind : Kind) (s : State μ ρ ν) :
    CounterMove s { notifyLater (suspendRelaying kind s) with
      held := Function.update s.held kind (s.held kind + 1) } := by
  rw [notifyLater_eq]
  refine .suspend kind rfl rfl ?_
  cases kind with
  | relaying =>
    refine suspended_relaying ?_ rfl
    simp only [suspendRelaying, Function.update_self]
    omega
  | httpRelaying =>
    refine suspended_httpRelaying ?_ rfl
    simp only [suspendRelaying, Function.update_self]
    omega

theorem counterMove_resume {kind : Kind} (hheld : 0 < s.held kind) :
    CounterMove s { notifyLater (resumeRelaying kind s) with
      held := Function.update s.held kind (s.held kind - 1) } := by
  rw [notifyLater_eq]
  refine .resume kind rfl rfl ?_
  cases kind with
  | relaying =>
    refine suspended_relaying ?_ rfl
    simp only [resumeRelaying, Function.update_self]
    omega
  | httpRelaying =>
    refine suspended_httpRelaying ?_ rfl
    simp only [resumeRelaying, Function.update_self]
    omega

theorem counterMove_activateCfgMode (s : State μ ρ ν) :
    CounterMove s (handleActivateCfgMode s) := by
  unfold handleActivateCfgMode
  split
  · exact .frame rfl rfl rfl rfl rfl rfl
  · rename_i hoff
    rw [notifyNow_eq]
    refine .suspend .relaying rfl rfl (suspended_relaying ?_ rfl)
    simp only [suspendRelaying, Bool.eq_false_iff.mpr hoff, Bool.toNat_true, Bool.toNat_false]
    omega

/-- The suspension is handed over from the bit to the rest of the handler. -/
theorem counterMove_deactivateCfgMode (hpc : s.pc = .idle) :
    CounterMove s (handleDeactivateCfgMode s) := by
  simp only [handleDeactivateCfgMode]
  split
  · exact .frame rfl rfl rfl rfl rfl rfl
  · rename_i hon
    have hcfg : s.cfgMode = true := by simpa using hon
    split
    · exact .frame rfl rfl rfl rfl rfl rfl
    · refine .same rfl rfl (funext fun kind => ?_)
      cases kind with
      | relaying => simp [State.suspensions_relaying, MainPc.resumes, hcfg, hpc]
      | httpRelaying => rfl

theorem counterMove_handleSig (sig : Sig) (allowed : Bool) (hpc : s.pc = .idle) :
    CounterMove s (handleSig sig allowed s) := by
  cases sig with
  | checkForFwUpdates =>
    simp only [handleSig]
    split
    · exact .frame rfl rfl rfl rfl rfl rfl
    · exact .frame rfl rfl rfl rfl rfl rfl
  | scheduleNextCheckForFwUpdates => exact .frame rfl rfl rfl rfl rfl rfl
  | scheduleRetryCheckForFwUpdates => exact .frame rfl rfl rfl rfl rfl rfl
  | activateCfgMode => exact counterMove_activateCfgMode s
  | deactivateCfgMode => exact counterMove_deactivateCfgMode hpc
  | restartServices => exact .frame rfl rfl rfl rfl (by rw [hpc]; rfl) rfl
  | checkForRemoteCfg => exact .frame rfl rfl rfl rfl rfl rfl
  | relayingModeChanged => exact .frame rfl rfl rfl rfl (by rw [hpc]; rfl) rfl

/-- To take a signal off changes nothing here. -/
theorem CounterMove.of_untake {sig : Sig} (h : CounterMove (s.untake sig) t) :
    CounterMove s t := by
  cases h with
  | same http mqtt suspensions => exact .same http mqtt suspensions
  | suspend kind http mqtt suspensions => exact .suspend kind http mqtt suspensions
  | resume kind http mqtt suspensions => exact .resume kind http mqtt suspensions
  | reboot counted => exact .reboot counted

theorem counterMove_continueHandler {ok : Bool} (hstep : continueHandler ok s = some t) :
    CounterMove s t := by
  unfold continueHandler at hstep
  split at hstep
  next => exact absurd hstep (by simp)
  next hpc =>
    refine Option.some.inj hstep ▸ .frame rfl rfl rfl rfl ?_ rfl
    rw [hpc]
    split
    · split
      · rfl
      · rfl
    · rfl
  next hpc =>
    obtain ⟨client, failed, hstart, -⟩ := mqttAppStartWithGwCfg_spec ok s
    rw [hstart] at hstep
    exact Option.some.inj hstep ▸ .frame rfl rfl rfl rfl (by rw [hpc]; rfl) rfl
  next hpc => exact Option.some.inj hstep ▸ .frame rfl rfl rfl rfl (by rw [hpc]; rfl) rfl
  next hpc => exact Option.some.inj hstep ▸ .frame rfl rfl rfl rfl (by rw [hpc]; rfl) rfl
  next hpc =>
    refine Option.some.inj hstep ▸ .frame rfl rfl rfl rfl ?_ rfl
    rw [hpc]
    split
    · rfl
    · rfl
  next hpc =>
    obtain ⟨client, failed, hstart, -⟩ := mqttAppStartWithGwCfg_spec ok s
    rw [hstart] at hstep
    exact Option.some.inj hstep ▸ .frame rfl rfl rfl rfl (by rw [hpc]; rfl) rfl
  next hpc => exact Option.some.inj hstep ▸ .frame rfl rfl rfl rfl (by rw [hpc]; rfl) rfl
  next hpc => exact Option.some.inj hstep ▸ .frame rfl rfl rfl rfl (by rw [hpc]; rfl) rfl
  next hpc =>
    rw [notifyNow_eq] at hstep
    refine Option.some.inj hstep ▸ .resume .relaying rfl rfl (suspended_relaying ?_ rfl)
    rw [hpc]
    rfl

variable {cmpRuuvi : RuuviCfg μ ρ → RuuviCfg μ ρ → Bool} {cmpNetwork : ν → ν → Bool}

/-- **One step suspends once, resumes once, or neither**, or the gateway reboots. -/
theorem step_counterMove {a : Act μ ρ ν} (hstep : step cmpRuuvi cmpNetwork s a = some t) :
    CounterMove s t := by
  cases a with
  | main ok => exact counterMove_continueHandler hstep
  | handle sig allowed =>
    obtain ⟨hcan, rfl⟩ := Option.ite_some_none_eq_some.mp hstep
    have hpc : (s.untake sig).pc = .idle := hcan.1
    exact (counterMove_handleSig sig allowed hpc).of_untake
  | suspend kind => exact Option.some.inj hstep ▸ counterMove_suspend kind s
  | resume kind =>
    obtain ⟨hheld, rfl⟩ := Option.ite_some_none_eq_some.mp hstep
    exact counterMove_resume hheld
  | remoteBegin =>
    simp only [step, notifyLater_eq] at hstep
    obtain ⟨hidle, rfl⟩ := Option.ite_some_none_eq_some.mp hstep
    refine .suspend .httpRelaying rfl rfl (suspended_httpRelaying ?_ rfl)
    rw [hidle]
    rfl
  | remoteEnd =>
    simp only [step, notifyLater_eq] at hstep
    obtain ⟨hsignalled, rfl⟩ := Option.ite_some_none_eq_some.mp hstep
    refine .resume .httpRelaying rfl rfl (suspended_httpRelaying ?_ rfl)
    rw [hsignalled]
    rfl
  | reboot ok =>
    obtain ⟨-, rfl⟩ := Option.ite_some_none_eq_some.mp hstep
    exact .reboot (counted_init s.cfg ok)
  | remoteFail | remoteStore ruuvi network =>
    obtain ⟨hdown, rfl⟩ := Option.ite_some_none_eq_some.mp hstep
    exact .frame rfl rfl rfl rfl rfl (by rw [hdown]; rfl)
  | remoteSignal =>
    simp only [step] at hstep
    split at hstep
    · rename_i hstored
      exact Option.some.inj hstep ▸ .frame rfl rfl rfl rfl rfl (by rw [hstored]; rfl)
    · rename_i hstored
      exact Option.some.inj hstep ▸ .frame rfl rfl rfl rfl rfl (by rw [hstored]; rfl)
    · rename_i hstored
      exact Option.some.inj hstep ▸ .frame rfl rfl rfl rfl rfl (by rw [hstored]; rfl)
    · exact absurd hstep (by simp)
  | setTimerDeactivateCfgMode active | postRuuvi new | postNetwork new =>
    exact Option.some.inj hstep ▸ .frame rfl rfl rfl rfl rfl rfl
  | send _ | take _ | timerDeactivateCfgModeFires | timerCheckForRemoteCfgFires
  | timerCheckForFwUpdatesFires | fwCheckBegin | fwCheckDone _ | notify | postTimer =>
    obtain ⟨-, rfl⟩ := Option.ite_some_none_eq_some.mp hstep
    exact .frame rfl rfl rfl rfl rfl rfl

/-- **One step keeps the count.** -/
theorem Counted.step {a : Act μ ρ ν} (h : Counted s)
    (hstep : step cmpRuuvi cmpNetwork s a = some t) : Counted t :=
  h.move (step_counterMove hstep)

end MainLoop
end RuuviGateway
