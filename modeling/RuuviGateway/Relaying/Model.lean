import RuuviGateway.AsyncComm.Model

/-!
# Suspending and resuming relaying

`gw_status.c` counts how often relaying is suspended, via HTTP and via MQTT.  The first
suspender of a kind and the last resumer set a command bit and notify the `adv_post` task
and the main task with `RELAYING_MODE_CHANGED`; the handlers look at the counter, do what it
says and clear the bit, and whoever waits polls the bit.

A step of the system is what one task does between two points at which it touches something
shared: a critical section of the mutex of the counters, setting or clearing a bit, sending a
signal, looking at a bit.  So every interleaving of the tasks is a run.  The `adv_post` task
is the one of `AsyncComm`, with the handler of `RELAYING_MODE_CHANGED` taken apart
(`handleRelayingModeChanged_eq`).

The MQTT client runs exactly when `GW_STATUS_MQTT_STARTED_BIT` is set.  `http_check_mqtt`,
which starts it on purpose while relaying is suspended, is not part of the system.
-/

namespace RuuviGateway
namespace Relaying

variable {ρ : Type}

/-- `g_gw_status_relaying`, the two command bits, and the signals `RELAYING_MODE_CHANGED`
pending for the `adv_post` task and for the main task. -/
structure GwStatus where
  cntRelayingViaHttpSuspended : Nat
  cntRelayingViaMqttSuspended : Nat
  httpRelayingCmd : Bool
  mqttRelayingCmd : Bool
  sigAdvPost : Bool
  sigMain : Bool
  deriving DecidableEq, Repr

/-- `gw_status_is_relaying_via_http_enabled`. -/
def GwStatus.isRelayingViaHttpEnabled (g : GwStatus) : Bool :=
  g.cntRelayingViaHttpSuspended == 0

/-- `gw_status_is_relaying_via_mqtt_enabled`. -/
def GwStatus.isRelayingViaMqttEnabled (g : GwStatus) : Bool :=
  g.cntRelayingViaMqttSuspended == 0

/-! ## Notifying and waiting -/

/-- Where `gw_status_notify_relaying_mode_changed_and_wait` stands. -/
inductive Pc where
  | setHttpCmd
  | setMqttCmd
  /-- In `event_mgr_notify`, which of the two tasks have got the signal; the order of the
  subscribers is not fixed. -/
  | notify (advPost main : Bool)
  | waitMqtt
  | waitHttp
  | returned
  deriving DecidableEq, Repr

/-- `gw_status_notify_relaying_mode_changed_and_wait`: its arguments, where it stands, and
whether a wait has timed out. -/
structure Notify where
  notifyHttp : Bool
  notifyMqtt : Bool
  wait : Bool
  pc : Pc
  timedOut : Bool
  deriving DecidableEq, Repr

/-- The call. -/
def Notify.start (notifyHttp notifyMqtt wait : Bool) : Notify where
  notifyHttp := notifyHttp
  notifyMqtt := notifyMqtt
  wait := wait
  pc := if !notifyHttp && !notifyMqtt then .returned else .setHttpCmd
  timedOut := false

/-- Both tasks have got the signal, or one is left. -/
def Notify.notified (n : Notify) (advPost main : Bool) : Notify :=
  { n with
    pc := if !(advPost && main) then .notify advPost main
      else if n.wait then .waitMqtt else .returned }

/-- What the function can do next; `timeout` is the end of a wait whose time is over. -/
inductive NotifyAct where
  | next
  | signalAdvPost
  | signalMain
  | timeout
  deriving DecidableEq, Repr

/-- One step of `gw_status_notify_relaying_mode_changed_and_wait`. -/
def notifyStep (a : NotifyAct) (n : Notify) (g : GwStatus) : Option (Notify × GwStatus) :=
  match n.pc, a with
  | .setHttpCmd, .next =>
      some ({ n with pc := .setMqttCmd },
        if n.notifyHttp then { g with httpRelayingCmd := true } else g)
  | .setMqttCmd, .next =>
      some ({ n with pc := .notify false false },
        if n.notifyMqtt then { g with mqttRelayingCmd := true } else g)
  | .notify false main, .signalAdvPost =>
      some (n.notified true main, { g with sigAdvPost := true })
  | .notify advPost false, .signalMain =>
      some (n.notified advPost true, { g with sigMain := true })
  -- `gw_status_wait_after_relaying_mode_changed`
  | .waitMqtt, .next =>
      if n.notifyMqtt && g.mqttRelayingCmd then none else some ({ n with pc := .waitHttp }, g)
  | .waitMqtt, .timeout =>
      if n.notifyMqtt && g.mqttRelayingCmd then
        some ({ n with pc := .waitHttp, timedOut := true }, g)
      else none
  | .waitHttp, .next =>
      if n.notifyHttp && g.httpRelayingCmd then none else some ({ n with pc := .returned }, g)
  | .waitHttp, .timeout =>
      if n.notifyHttp && g.httpRelayingCmd then
        some ({ n with pc := .returned, timedOut := true }, g)
      else none
  | _, _ => none

/-! ## The calls -/

/-- Which of the two functions a call and its resume are. -/
inductive Kind where
  /-- `gw_status_suspend_relaying`, `gw_status_resume_relaying`. -/
  | relaying
  /-- `gw_status_suspend_http_relaying`, `gw_status_resume_http_relaying`. -/
  | httpRelaying
  deriving DecidableEq, Repr

/-- The call suspends relaying via MQTT too. -/
def Kind.mqtt : Kind → Bool
  | .relaying => true
  | .httpRelaying => false

/-- A call: it suspends relaying, returns, and is resumed. -/
inductive Phase where
  | suspend (n : Notify)
  | resume (n : Notify)
  deriving DecidableEq, Repr

/-- A suspend call and what has become of it. -/
structure Call where
  kind : Kind
  phase : Phase
  deriving DecidableEq, Repr

/-- The critical section of `gw_status_suspend_relaying` and
`gw_status_suspend_http_relaying`. -/
def suspend (kind : Kind) (wait : Bool) (g : GwStatus) : Call × GwStatus :=
  (⟨kind, .suspend (.start g.isRelayingViaHttpEnabled
      (kind.mqtt && g.isRelayingViaMqttEnabled) wait)⟩,
    { g with
      cntRelayingViaHttpSuspended := g.cntRelayingViaHttpSuspended + 1
      cntRelayingViaMqttSuspended :=
        if kind.mqtt then g.cntRelayingViaMqttSuspended + 1
        else g.cntRelayingViaMqttSuspended })

/-- The critical section of `gw_status_resume_relaying` and
`gw_status_resume_http_relaying`; a counter that is 0 stays 0 and is not notified. -/
def resume (kind : Kind) (wait : Bool) (g : GwStatus) : Call × GwStatus :=
  (⟨kind, .resume (.start (g.cntRelayingViaHttpSuspended == 1)
      (kind.mqtt && g.cntRelayingViaMqttSuspended == 1) wait)⟩,
    { g with
      cntRelayingViaHttpSuspended := g.cntRelayingViaHttpSuspended - 1
      cntRelayingViaMqttSuspended :=
        if kind.mqtt then g.cntRelayingViaMqttSuspended - 1
        else g.cntRelayingViaMqttSuspended })

/-! ## The tasks -/

/-- Where `adv_post_handle_sig_relaying_mode_changed` stands. -/
inductive AdvPostPc where
  | idle
  /-- It has read whether relaying via HTTP is enabled. -/
  | read (enabled : Bool)
  | assigned
  /-- `http_abort_any_req_during_processing` is done or not needed. -/
  | aborted
  deriving DecidableEq, Repr

/-- Where the main task stands in `main_task_handle_sig_relaying_mode_changed` or
`main_task_handle_sig_restart_services`. -/
inductive MainPc where
  | idle
  /-- MQTT is used and relaying via MQTT was enabled: start the client. -/
  | modeEnabled
  /-- Stop the client. -/
  | modeStop
  /-- Clear the command bit. -/
  | modeClear
  /-- `main_task_handle_sig_restart_services` has stopped the client. -/
  | restartStopped
  /-- It has seen that relaying via MQTT is enabled. -/
  | restartEnabled
  deriving DecidableEq, Repr

/-- The first half of `adv_post_handle_sig_relaying_mode_changed`, with the value that
`gw_status_is_relaying_via_http_enabled` has returned. -/
def assignRelayingEnabled (enabled : Bool) (s : AsyncComm.State ρ) : AsyncComm.State ρ :=
  { s with gwRelayingViaHttp := enabled }.mapAdvPost fun p =>
    { p with flagRelayingEnabled := enabled }

/-- The second half, up to `gw_status_clear_http_relaying_cmd`. -/
def abortIfSuspended (s : AsyncComm.State ρ) : Option (AsyncComm.State ρ) :=
  if !s.advPost.flagRelayingEnabled && s.advPost.flagAsyncCommInProgress then
    (AsyncComm.httpAbortAnyReqDuringProcessing (AsyncComm.stopTimerSigDoAsyncComm s)).map fun s =>
      AsyncComm.httpServerMutexUnlock .advPost
        (s.mapAdvPost fun p => { p with flagAsyncCommInProgress := false })
  else some s

/-- The two halves are the handler of `AsyncComm`. -/
theorem handleRelayingModeChanged_eq (s : AsyncComm.State ρ) :
    AsyncComm.handleRelayingModeChanged s =
      abortIfSuspended (assignRelayingEnabled s.gwRelayingViaHttp s) := rfl

/-- The state of the system. -/
structure State (ρ : Type) where
  gw : GwStatus
  /-- The calls, in the order in which they took the mutex first. -/
  calls : List Call
  advPost : AsyncComm.State ρ
  /-- The task has taken the signal and will run the handler. -/
  advPostTaken : Bool
  advPostPc : AdvPostPc
  mainTaken : Bool
  mainPc : MainPc
  mqttRunning : Bool

/-- The steps of the system. -/
inductive Act (ρ : Type) where
  /-- A task calls a suspend function. -/
  | suspend (kind : Kind) (wait : Bool)
  /-- The resume function for the call `i` is called. -/
  | resume (i : Nat) (wait : Bool)
  /-- The call `i` goes on. -/
  | call (i : Nat) (a : NotifyAct)
  /-- The `adv_post` task wakes up with `RELAYING_MODE_CHANGED`. -/
  | advPostTake
  | advPostRead
  | advPostAssign
  | advPostAbort
  | advPostClear
  /-- Something else happens to the `adv_post` task. -/
  | advPost (a : AsyncComm.Act ρ)
  | mainTake
  /-- The main task looks at `use_mqtt` and at the counter. -/
  | mainRead (useMqtt : Bool)
  /-- `mqtt_app_start_with_gw_cfg`, which does nothing if the client is running and may
  fail. -/
  | mainStart (ok : Bool)
  | mainStop
  | mainClear
  /-- `RESTART_SERVICES` is handled: `mqtt_app_stop`. -/
  | restartStop
  | restartRead (useMqtt : Bool)

/-- What else the `adv_post` task handles, outside the handler of `RELAYING_MODE_CHANGED`. -/
def advPostAllowed (pc : AdvPostPc) : AsyncComm.Act ρ → Bool
  | .handle sig _ => decide (pc = .idle) && decide (sig ≠ .relayingModeChanged)
  | .timerFires => true
  | .setRelayingViaHttp _ => false
  | .serverLock => true
  | .serverUnlock => true

/-- The call `i` becomes `c`. -/
def State.setCall (s : State ρ) (i : Nat) (r : Call × GwStatus) : State ρ :=
  { s with calls := s.calls.set i r.1, gw := r.2 }

/-- A suspend call that has returned is resumed. -/
def resumeCall (s : State ρ) (i : Nat) (wait : Bool) : Option (State ρ) :=
  match s.calls[i]? with
  | some ⟨kind, .suspend n⟩ =>
      if n.pc = .returned then some (s.setCall i (resume kind wait s.gw)) else none
  | _ => none

/-- A call goes on. -/
def stepCall (s : State ρ) (i : Nat) (a : NotifyAct) : Option (State ρ) :=
  match s.calls[i]? with
  | some ⟨kind, .suspend n⟩ =>
      (notifyStep a n s.gw).map fun r => s.setCall i (⟨kind, .suspend r.1⟩, r.2)
  | some ⟨kind, .resume n⟩ =>
      (notifyStep a n s.gw).map fun r => s.setCall i (⟨kind, .resume r.1⟩, r.2)
  | none => none

/-- One step. -/
def step (s : State ρ) : Act ρ → Option (State ρ)
  | .suspend kind wait =>
      let r := suspend kind wait s.gw
      some { s with calls := s.calls ++ [r.1], gw := r.2 }
  | .resume i wait => resumeCall s i wait
  | .call i a => stepCall s i a
  -- `adv_post_handle_sig_relaying_mode_changed`
  | .advPostTake =>
      if s.advPostPc = .idle ∧ s.gw.sigAdvPost = true then
        some { s with advPostTaken := true, gw := { s.gw with sigAdvPost := false } }
      else none
  | .advPostRead =>
      if s.advPostPc = .idle ∧ s.advPostTaken = true then
        some { s with advPostTaken := false, advPostPc := .read s.gw.isRelayingViaHttpEnabled }
      else none
  | .advPostAssign =>
      match s.advPostPc with
      | .read enabled =>
          some { s with
            advPost := assignRelayingEnabled enabled s.advPost
            advPostPc := .assigned }
      | _ => none
  | .advPostAbort =>
      if s.advPostPc = .assigned then
        (abortIfSuspended s.advPost).map fun p => { s with advPost := p, advPostPc := .aborted }
      else none
  | .advPostClear =>
      if s.advPostPc = .aborted then
        some { s with advPostPc := .idle, gw := { s.gw with httpRelayingCmd := false } }
      else none
  | .advPost a =>
      if advPostAllowed s.advPostPc a then
        (AsyncComm.step s.advPost a).map fun p => { s with advPost := p }
      else none
  -- `main_task_handle_sig_relaying_mode_changed`
  | .mainTake =>
      if s.mainPc = .idle ∧ s.gw.sigMain = true then
        some { s with mainTaken := true, gw := { s.gw with sigMain := false } }
      else none
  | .mainRead useMqtt =>
      if s.mainPc = .idle ∧ s.mainTaken = true then
        some { s with
          mainTaken := false
          mainPc := if useMqtt && s.gw.isRelayingViaMqttEnabled then .modeEnabled else .modeStop }
      else none
  | .mainStart ok =>
      match s.mainPc with
      | .modeEnabled => some { s with mqttRunning := s.mqttRunning || ok, mainPc := .modeClear }
      | .restartEnabled => some { s with mqttRunning := s.mqttRunning || ok, mainPc := .idle }
      | _ => none
  | .mainStop =>
      if s.mainPc = .modeStop then some { s with mqttRunning := false, mainPc := .modeClear }
      else none
  | .mainClear =>
      if s.mainPc = .modeClear then
        some { s with mainPc := .idle, gw := { s.gw with mqttRelayingCmd := false } }
      else none
  -- `main_task_handle_sig_restart_services`
  | .restartStop =>
      if s.mainPc = .idle then some { s with mqttRunning := false, mainPc := .restartStopped }
      else none
  | .restartRead useMqtt =>
      if s.mainPc = .restartStopped then
        some { s with
          mainPc := if useMqtt && s.gw.isRelayingViaMqttEnabled then .restartEnabled else .idle }
      else none

/-- The state when all tasks are in their loops: `main_loop` has started the MQTT client if
it is used. -/
def init (advPost : AsyncComm.State ρ) (mqttRunning : Bool) : State ρ where
  gw := ⟨0, 0, false, false, false, false⟩
  calls := []
  advPost := advPost
  advPostTaken := false
  advPostPc := .idle
  mainTaken := false
  mainPc := .idle
  mqttRunning := mqttRunning

/-- The system. -/
def system (ρ : Type) : TransitionSystem.System (State ρ) (Act ρ) where
  init s := ∃ nonce creds mqttRunning, s = init (AsyncComm.init nonce creds) mqttRunning
  step := step

/-! ## The handshake -/

/-- The `adv_post` task has stopped relaying: its copy of the flag is cleared, and no HTTP
request of its own is in progress. -/
structure HttpStopped (p : AsyncComm.State ρ) : Prop where
  flag : p.advPost.flagRelayingEnabled = false
  request : ∀ target, p.httpReq ≠ some ⟨target, .advPost⟩

/-- What a call promises. -/
def Stopped (kind : Kind) (s : State ρ) : Prop :=
  HttpStopped s.advPost ∧ (kind = .relaying → s.mqttRunning = false)

/-- A suspend call for which `p` holds. -/
def Call.suspends (p : Notify → Bool) (c : Call) : Bool :=
  match c.phase with
  | .suspend n => p n
  | .resume _ => false

/-- A suspend call with `wait` has returned, its wait has not timed out, and it has not been
resumed. -/
def Call.inForce (c : Call) : Bool :=
  c.suspends fun n => n.wait && decide (n.pc = .returned) && !n.timedOut

/-- **The handshake**: relaying has stopped for every call in force. -/
def Honoured (s : State ρ) : Prop :=
  ∀ c ∈ s.calls, c.inForce = true → Stopped c.kind s

/-! ## Orderly steps -/

/-- The `adv_post` task follows the counter: it has stopped, and is not about to set its flag
again. -/
def HttpSettled (s : State ρ) : Prop :=
  HttpStopped s.advPost ∧ s.advPostPc ≠ .read true

/-- The MQTT client is stopped, and the main task is not about to start it. -/
def MqttSettled (s : State ρ) : Prop :=
  s.mqttRunning = false ∧ s.mainPc ≠ .modeEnabled ∧ s.mainPc ≠ .restartEnabled

/-- The call has set the command bit for HTTP and has not seen it cleared yet. -/
def Notify.awaitsHttp (n : Notify) : Bool :=
  n.notifyHttp && n.wait && !n.timedOut &&
    match n.pc with
    | .setMqttCmd | .notify .. | .waitMqtt | .waitHttp => true
    | .setHttpCmd | .returned => false

/-- The same for MQTT. -/
def Notify.awaitsMqtt (n : Notify) : Bool :=
  n.notifyMqtt && n.wait && !n.timedOut &&
    match n.pc with
    | .notify .. | .waitMqtt => true
    | .setHttpCmd | .setMqttCmd | .waitHttp | .returned => false

/-- The condition on a step.  A suspend call that finds relaying suspended already, and so
will not wait, is made only when the tasks have followed the earlier ones; and a handler that
has found relaying enabled does not clear the command of a suspend call that came after. -/
def Orderly (s : State ρ) : Act ρ → Prop
  | .suspend kind wait =>
      wait = true →
        (s.gw.isRelayingViaHttpEnabled = false → HttpSettled s) ∧
        (kind = .relaying → s.gw.isRelayingViaMqttEnabled = false → MqttSettled s)
  | .advPostClear =>
      s.advPost.advPost.flagRelayingEnabled = true →
        ∀ c ∈ s.calls, c.suspends Notify.awaitsHttp = false
  | .mainClear =>
      s.mqttRunning = true → ∀ c ∈ s.calls, c.suspends Notify.awaitsMqtt = false
  | _ => True

instance (p : AsyncComm.State ρ) : Decidable (HttpStopped p) :=
  decidable_of_iff (p.advPost.flagRelayingEnabled = false ∧
      (p.httpReq.all fun r => r.task ≠ .advPost) = true) <| by
    constructor
    · rintro ⟨hflag, hreq⟩
      refine ⟨hflag, fun target hr => ?_⟩
      rw [hr] at hreq
      exact absurd hreq (by simp)
    · rintro ⟨hflag, hreq⟩
      refine ⟨hflag, ?_⟩
      cases hr : p.httpReq with
      | none => rfl
      | some r =>
        obtain ⟨target, task⟩ := r
        cases task with
        | advPost => exact absurd hr (hreq target)
        | httpServer => rfl

instance (s : State ρ) : Decidable (HttpSettled s) := inferInstanceAs (Decidable (_ ∧ _))

instance (s : State ρ) : Decidable (MqttSettled s) := inferInstanceAs (Decidable (_ ∧ _))

instance (s : State ρ) : (a : Act ρ) → Decidable (Orderly s a)
  | .suspend _ wait => inferInstanceAs (Decidable (wait = true → _ ∧ _))
  | .advPostClear =>
      inferInstanceAs (Decidable (s.advPost.advPost.flagRelayingEnabled = true → ∀ c ∈ s.calls, _))
  | .mainClear => inferInstanceAs (Decidable (s.mqttRunning = true → ∀ c ∈ s.calls, _))
  | .resume .. | .call .. | .advPostTake | .advPostRead | .advPostAssign | .advPostAbort
  | .advPost _ | .mainTake | .mainRead _ | .mainStart _ | .mainStop | .restartStop
  | .restartRead _ => inferInstanceAs (Decidable True)

end Relaying
end RuuviGateway
