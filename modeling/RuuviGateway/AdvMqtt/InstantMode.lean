import RuuviGateway.AdvTable.History
import RuuviGateway.Relaying.Model

/-!
# The instant mode of MQTT

The `adv_mqtt` task publishes the third retransmission list as it fills: each accepted
advertisement sends `ON_RECV_ADV`, and the handler takes one report from the list and sends
the signal again if more are left.  It does nothing while MQTT is not connected, relaying via
MQTT is suspended, or the instant mode is off.

`os_signal_wait_with_timeout` hands all pending signals to the task at once, and the task
handles them in the order of their numbers; what is sent meanwhile is pending again.  So a
signal is *signalled* if it is in the batch or pending.

The handlers of the signals that open a gate again do not send `ON_RECV_ADV`.  What came in
while a gate was closed waits for the next advertisement (`connect_sleeps`).  Every other step
keeps the task awake (`noLostWakeUp_of_opensAwake`).

`adv_mqtt_stop` has no caller, and `ADV_MQTT_SIG_STOP` is left out.
-/

namespace RuuviGateway
namespace AdvMqtt

open AdvTable TransitionSystem

/-! ## The task -/

/-- `adv_mqtt_sig_e`. -/
inductive Sig where
  | onRecvAdv
  | mqttConnected
  | taskWatchdogFeed
  | gwCfgReady
  | gwCfgChangedRuuvi
  | relayingModeChanged
  | cfgModeActivated
  | cfgModeDeactivated
  deriving DecidableEq, Repr

/-- The number of a signal. -/
def Sig.num : Sig → Nat
  | .onRecvAdv => 1
  | .mqttConnected => 2
  | .taskWatchdogFeed => 3
  | .gwCfgReady => 4
  | .gwCfgChangedRuuvi => 5
  | .relayingModeChanged => 6
  | .cfgModeActivated => 7
  | .cfgModeDeactivated => 8

/-- `adv_mqtt_cfg_cache_t`. -/
structure CfgCache where
  flagUseNtp : Bool
  flagMqttInstantModeActive : Bool
  deriving DecidableEq, Repr

/-- What the task reads of the configuration. -/
structure GwCfg where
  ntpUse : Bool
  useMqtt : Bool
  mqttSendingInterval : UInt32
  deriving DecidableEq, Repr

/-- A call of `mqtt_publish_adv` and what it returned. -/
structure Publication where
  report : AdvReport
  flagUseTimestamps : Bool
  timestamp : UInt32
  result : Bool

/-- What the handler of `ON_RECV_ADV` finds around it. -/
structure Env where
  /-- `mqtt_is_buffer_available_for_publish`. -/
  bufferIsAvailable : Bool
  /-- What `mqtt_publish_adv` returns. -/
  publishResult : Bool
  /-- `time_is_synchronized`. -/
  timeIsSynchronized : Bool
  /-- `time(NULL)`. -/
  time : UInt32
  /-- `(time_t)metrics_received_advs_get()`. -/
  receivedAdvs : UInt32

/-- The task and what it shares with the others. -/
structure State where
  table : Table
  /-- `g_gw_status_relaying`. -/
  gw : Relaying.GwStatus
  /-- `gw_status_is_mqtt_connected`. -/
  mqttConnected : Bool
  gwCfg : GwCfg
  /-- `g_gw_cfg_ready`. -/
  gwCfgReady : Bool
  cfgCache : CfgCache
  pending : Finset Sig
  /-- The signals that the task has taken and not handled. -/
  batch : Finset Sig
  timerRetrySendingAdvs : Bool
  published : List Publication

/-- `os_signal_send`. -/
def sendSig (sig : Sig) (s : State) : State := { s with pending := insert sig s.pending }

/-- The middle of `adv_mqtt_handle_sig_recv_adv`: the head of the list is published. -/
def publishHead (env : Env) (s : State) : State :=
  match readRetransmissionList3Head s.table with
  | (none, table) => { s with table := table }
  | (some report, table) =>
      { s with
        table := table
        published :=
          { report := report
            flagUseTimestamps := s.cfgCache.flagUseNtp
            timestamp :=
              if s.cfgCache.flagUseNtp then (if env.timeIsSynchronized then env.time else 0)
              else env.receivedAdvs
            result := env.publishResult } :: s.published }

/-- `adv_mqtt_handle_sig_recv_adv`. -/
def handleSigRecvAdv (env : Env) (s : State) : State :=
  if !s.mqttConnected || !s.gw.isRelayingViaMqttEnabled then s
  else if !s.cfgCache.flagMqttInstantModeActive then s
  else if !env.bufferIsAvailable then { s with timerRetrySendingAdvs := true }
  else
    let s := publishHead env s
    if !readRetransmissionList3IsEmpty s.table then sendSig .onRecvAdv s else s

/-- `flag_mqtt_instant_mode_active` of a configuration. -/
def GwCfg.instantMode (cfg : GwCfg) : Bool := cfg.useMqtt && cfg.mqttSendingInterval == 0

/-- `adv_mqtt_on_gw_cfg_change`. -/
def onGwCfgChange (s : State) : State :=
  { s with cfgCache := ⟨s.gwCfg.ntpUse, s.gwCfg.instantMode⟩ }

/-- `adv_mqtt_handle_sig`.  `MQTT_CONNECTED` publishes the connect message, and the watchdog is
fed; neither changes anything here. -/
def handleSig (env : Env) : Sig → State → State
  | .onRecvAdv, s => handleSigRecvAdv env s
  | .mqttConnected, s => s
  | .taskWatchdogFeed, s => s
  | .gwCfgReady, s => onGwCfgChange s
  | .gwCfgChangedRuuvi, s => onGwCfgChange s
  | .relayingModeChanged, s => s
  | .cfgModeActivated, s => s
  | .cfgModeDeactivated, s => onGwCfgChange s

/-! ## The steps -/

/-- What can happen. -/
inductive Step where
  /-- A report is put into the table, and `EVENT_MGR_EV_RECV_ADV` notified if it is accepted. -/
  | recvAdv (adv : AdvReport)
  /-- Another task reads or clears the table. -/
  | call (op : Op)
  /-- `MQTT_EVENT_CONNECTED`. -/
  | mqttEventConnected
  /-- `MQTT_EVENT_DISCONNECTED`, or the client is stopped. -/
  | mqttEventDisconnected
  | suspend (kind : Relaying.Kind)
  | resume (kind : Relaying.Kind)
  /-- `gw_cfg_update` with a configuration that differs. -/
  | gwCfgUpdate (cfg : GwCfg)
  | cfgModeActivated
  | cfgModeDeactivated
  | watchdogTimerFires
  | retryTimerFires
  /-- The task takes all pending signals. -/
  | wait
  /-- The task handles the next signal that it has taken. -/
  | handle (sig : Sig) (env : Env)

/-- A change of the counters of `gw_status.c`, which notifies `RELAYING_MODE_CHANGED` unless
the call returns at once. -/
def relayingChanged (r : Relaying.Call × Relaying.GwStatus) (n : Relaying.Notify) (s : State) :
    State :=
  if n.pc = .returned then { s with gw := r.2 }
  else sendSig .relayingModeChanged { s with gw := r.2 }

/-- The call that a suspend or a resume starts. -/
def notifyOf : Relaying.Phase → Relaying.Notify
  | .suspend n => n
  | .resume n => n

/-- One step. -/
def step (s : State) : Step → Option State
  | .recvAdv adv =>
      let t := { s with table := (put s.table adv).1 }
      some (if (put s.table adv).2 then sendSig .onRecvAdv t else t)
  | .call op => if op.isPut then none else some { s with table := (exec s.table op).1 }
  | .mqttEventConnected => some (sendSig .mqttConnected { s with mqttConnected := true })
  | .mqttEventDisconnected => some { s with mqttConnected := false }
  | .suspend kind =>
      let r := Relaying.suspend kind false s.gw
      some (relayingChanged r (notifyOf r.1.phase) s)
  | .resume kind =>
      let r := Relaying.resume kind false s.gw
      some (relayingChanged r (notifyOf r.1.phase) s)
  | .gwCfgUpdate cfg =>
      let t := { s with gwCfg := cfg, gwCfgReady := true }
      some (sendSig (if s.gwCfgReady then .gwCfgChangedRuuvi else .gwCfgReady) t)
  | .cfgModeActivated => some (sendSig .cfgModeActivated s)
  | .cfgModeDeactivated => some (sendSig .cfgModeDeactivated s)
  | .watchdogTimerFires => some (sendSig .taskWatchdogFeed s)
  | .retryTimerFires =>
      if s.timerRetrySendingAdvs then
        some (sendSig .onRecvAdv { s with timerRetrySendingAdvs := false })
      else none
  | .wait =>
      if s.batch = ∅ then some { s with pending := ∅, batch := s.pending } else none
  | .handle sig env =>
      if sig ∈ s.batch ∧ ∀ other ∈ s.batch, sig.num ≤ other.num then
        some (handleSig env sig { s with batch := s.batch.erase sig })
      else none

/-- The start of the task: nothing is received, cached or signalled, and relaying is as it may
be. -/
def system : System State Step where
  init s := s.table = AdvTable.init ∧ s.gwCfgReady = false ∧ s.cfgCache = ⟨false, false⟩ ∧
    s.mqttConnected = false ∧ s.pending = ∅ ∧ s.batch = ∅ ∧ s.timerRetrySendingAdvs = false
  step := step

/-! ## The property -/

/-- The task has the signal in hand, or will get it. -/
def State.Signalled (s : State) (sig : Sig) : Prop := sig ∈ s.batch ∨ sig ∈ s.pending

/-- The three gates of `adv_mqtt_handle_sig_recv_adv`. -/
def State.GatesOpen (s : State) : Prop :=
  s.mqttConnected = true ∧ s.gw.isRelayingViaMqttEnabled = true ∧
    s.cfgCache.flagMqttInstantModeActive = true

/-- The other signals that tell the task of a change. -/
def otherSigs : List Sig :=
  [.mqttConnected, .relayingModeChanged, .cfgModeActivated, .cfgModeDeactivated,
    .gwCfgChangedRuuvi]

/-- `ON_RECV_ADV` is signalled, or the timer that sends it is running. -/
def State.Awake (s : State) : Prop :=
  s.Signalled .onRecvAdv ∨ s.timerRetrySendingAdvs = true

/-- **The property**: with the gates open, a report in the list and no other signal to come,
the task is awake. -/
def NoLostWakeUp (s : State) : Prop :=
  s.GatesOpen → s.table.retransmissionList .list3 ≠ [] →
    (∀ sig ∈ otherSigs, ¬ s.Signalled sig) → s.Awake

/-- The instant mode after a signal has been handled. -/
def State.instantAfter (s : State) : Sig → Bool
  | .gwCfgReady | .gwCfgChangedRuuvi | .cfgModeDeactivated => s.gwCfg.instantMode
  | _ => s.cfgCache.flagMqttInstantModeActive

/-- **The condition**: the last of the signals that tell of a change is handled, with the
gates open afterwards and a report in the list, only if the task is awake. -/
def OpensAwake (s : State) : Step → Prop
  | .handle sig _ => sig ∈ .gwCfgReady :: otherSigs → s.mqttConnected = true →
      s.gw.isRelayingViaMqttEnabled = true → s.instantAfter sig = true →
      s.table.retransmissionList .list3 ≠ [] →
      (∀ other ∈ otherSigs, other ∉ s.batch.erase sig ∧ other ∉ s.pending) → s.Awake
  | _ => True

instance decidableSignalled (s : State) (sig : Sig) : Decidable (s.Signalled sig) :=
  inferInstanceAs (Decidable (_ ∨ _))

instance decidableAwake (s : State) : Decidable s.Awake := inferInstanceAs (Decidable (_ ∨ _))

instance decidableOpensAwake (s : State) : (a : Step) → Decidable (OpensAwake s a)
  | .handle .. => inferInstanceAs (Decidable (_ → _ → _ → _ → _ → _ → _))
  | .recvAdv _ | .call _ | .mqttEventConnected | .mqttEventDisconnected | .suspend _
  | .resume _ | .gwCfgUpdate _ | .cfgModeActivated | .cfgModeDeactivated
  | .watchdogTimerFires | .retryTimerFires | .wait => inferInstanceAs (Decidable True)

/-- A signal other than `ON_RECV_ADV`, handled. -/
theorem handleSig_eq {sig : Sig} (hsig : sig ≠ .onRecvAdv) (env : Env) (s : State) :
    (handleSig env sig s).table = s.table ∧ (handleSig env sig s).gw = s.gw ∧
      (handleSig env sig s).mqttConnected = s.mqttConnected ∧
      (handleSig env sig s).cfgCache.flagMqttInstantModeActive = s.instantAfter sig ∧
      (handleSig env sig s).pending = s.pending ∧ (handleSig env sig s).batch = s.batch ∧
      (handleSig env sig s).timerRetrySendingAdvs = s.timerRetrySendingAdvs := by
  cases sig with
  | onRecvAdv => exact absurd rfl hsig
  | mqttConnected => exact ⟨rfl, rfl, rfl, rfl, rfl, rfl, rfl⟩
  | taskWatchdogFeed => exact ⟨rfl, rfl, rfl, rfl, rfl, rfl, rfl⟩
  | gwCfgReady => exact ⟨rfl, rfl, rfl, rfl, rfl, rfl, rfl⟩
  | gwCfgChangedRuuvi => exact ⟨rfl, rfl, rfl, rfl, rfl, rfl, rfl⟩
  | relayingModeChanged => exact ⟨rfl, rfl, rfl, rfl, rfl, rfl, rfl⟩
  | cfgModeActivated => exact ⟨rfl, rfl, rfl, rfl, rfl, rfl, rfl⟩
  | cfgModeDeactivated => exact ⟨rfl, rfl, rfl, rfl, rfl, rfl, rfl⟩

variable {s t : State}

/-! ## The steps keep the task awake -/

theorem noLostWakeUp_of_awake (h : s.Awake) : NoLostWakeUp s := fun _ _ _ => h

theorem noLostWakeUp_of_list3_eq_nil (h : s.table.retransmissionList .list3 = []) :
    NoLostWakeUp s := fun _ hlist _ => absurd h hlist

theorem awake_sendSig : (sendSig .onRecvAdv s).Awake :=
  .inl (.inr (Finset.mem_insert_self _ _))

theorem State.Signalled.sendSig {sig sig' : Sig} (h : s.Signalled sig) :
    (sendSig sig' s).Signalled sig := h.imp_right (Finset.mem_insert_of_mem ·)

/-- A step that sends one of the other signals. -/
theorem noLostWakeUp_sendOther {sig : Sig} (hsig : sig ∈ otherSigs) :
    NoLostWakeUp (sendSig sig s) := fun _ _ hother =>
  absurd (.inr (Finset.mem_insert_self _ _)) (hother sig hsig)

/-- A step that opens no gate, fills no empty list and takes no signal back, but for the one
of the watchdog. -/
theorem NoLostWakeUp.mono (h : NoLostWakeUp s) (hgates : t.GatesOpen → s.GatesOpen)
    (hlist : s.table.retransmissionList .list3 = [] → t.table.retransmissionList .list3 = [])
    (hsig : ∀ sig, sig ≠ .taskWatchdogFeed → s.Signalled sig → t.Signalled sig)
    (htimer : s.timerRetrySendingAdvs = true → t.timerRetrySendingAdvs = true) :
    NoLostWakeUp t := by
  intro hopen hne hother
  have hfeed : ∀ sig ∈ otherSigs, sig ≠ .taskWatchdogFeed := by decide
  have hawake := h (hgates hopen) (fun hnil => hne (hlist hnil))
    fun sig hmem hs => hother sig hmem (hsig sig (hfeed sig hmem) hs)
  exact hawake.imp (hsig _ (by decide)) htimer

/-- The handler of `ON_RECV_ADV` sends it again, starts the timer, empties the list, or finds
a gate closed. -/
theorem noLostWakeUp_handleSigRecvAdv (env : Env) (s : State) :
    NoLostWakeUp (handleSigRecvAdv env s) := by
  unfold handleSigRecvAdv
  split
  · rename_i hclosed
    rintro ⟨hconn, hgw, -⟩
    simp [hconn, hgw] at hclosed
  · split
    · rename_i hoff
      rintro ⟨-, -, hinst⟩
      simp [hinst] at hoff
    · split
      · exact noLostWakeUp_of_awake (.inr rfl)
      · simp only
        split
        · exact noLostWakeUp_of_awake awake_sendSig
        · rename_i hempty
          exact noLostWakeUp_of_list3_eq_nil (by
            simpa [readRetransmissionList3IsEmpty] using hempty)

/-- The counters of `gw_status.c` change: relaying via MQTT is enabled again only with a
notification. -/
theorem noLostWakeUp_relayingChanged (h : NoLostWakeUp s)
    {r : Relaying.Call × Relaying.GwStatus} {n : Relaying.Notify}
    (hn : n.pc = .returned → r.2.isRelayingViaMqttEnabled = true →
      s.gw.isRelayingViaMqttEnabled = true) : NoLostWakeUp (relayingChanged r n s) := by
  unfold relayingChanged
  split
  · rename_i hpc
    exact h.mono (fun ho => ⟨ho.1, hn hpc ho.2.1, ho.2.2⟩) id (fun _ _ => id) id
  · exact noLostWakeUp_sendOther (by decide)

theorem suspend_relaying (kind : Relaying.Kind) (gw : Relaying.GwStatus) :
    (Relaying.suspend kind false gw).2.isRelayingViaMqttEnabled = true →
      gw.isRelayingViaMqttEnabled = true := by
  cases kind with
  | relaying => simp [Relaying.suspend, Relaying.GwStatus.isRelayingViaMqttEnabled,
      Relaying.Kind.mqtt]
  | httpRelaying => exact id

theorem resume_relaying (kind : Relaying.Kind) (gw : Relaying.GwStatus)
    (hpc : (notifyOf (Relaying.resume kind false gw).1.phase).pc = .returned)
    (hopen : (Relaying.resume kind false gw).2.isRelayingViaMqttEnabled = true) :
    gw.isRelayingViaMqttEnabled = true := by
  cases kind with
  | httpRelaying => exact hopen
  | relaying =>
    have hnotify : ¬ gw.cntRelayingViaMqttSuspended = 1 := fun h1 => by
      simp [notifyOf, Relaying.resume, Relaying.Notify.start, Relaying.Kind.mqtt, h1] at hpc
    have hzero : gw.cntRelayingViaMqttSuspended - 1 = 0 := by
      simpa [Relaying.resume, Relaying.GwStatus.isRelayingViaMqttEnabled, Relaying.Kind.mqtt]
        using hopen
    have h0 : gw.cntRelayingViaMqttSuspended = 0 := by omega
    simp [Relaying.GwStatus.isRelayingViaMqttEnabled, h0]

/-- The end of a signal that tells of a change: the condition is what is left to show. -/
theorem noLostWakeUp_handle_iff {sig : Sig} (hchange : sig ∈ .gwCfgReady :: otherSigs)
    (env : Env) (s : State) :
    NoLostWakeUp (handleSig env sig { s with batch := s.batch.erase sig }) ↔
      OpensAwake s (.handle sig env) := by
  have hne : ∀ sig ∈ Sig.gwCfgReady :: otherSigs, sig ≠ .onRecvAdv := by decide
  have hsig := hne sig hchange
  obtain ⟨htable, hgw, hconn, hinst, hpending, hbatch, htimer⟩ :=
    handleSig_eq hsig env { s with batch := s.batch.erase sig }
  have hrecv : Sig.onRecvAdv ∈ s.batch.erase sig ↔ Sig.onRecvAdv ∈ s.batch := by
    rw [Finset.mem_erase]
    exact and_iff_right hsig.symm
  simp only [NoLostWakeUp, State.GatesOpen, State.Awake, State.Signalled, OpensAwake, htable,
    hgw, hconn, hinst, hpending, hbatch, htimer, hrecv]
  constructor
  · intro h _ hc hg hi hne hother
    exact h ⟨hc, hg, hi⟩ hne fun other hmem hs =>
      hs.elim (hother other hmem).1 (hother other hmem).2
  · rintro h ⟨hc, hg, hi⟩ hne hother
    exact h hchange hc hg hi hne fun other hmem =>
      ⟨fun hb => hother other hmem (.inl hb), fun hp => hother other hmem (.inr hp)⟩

/-- The watchdog is fed. -/
theorem noLostWakeUp_watchdogFeed (h : NoLostWakeUp s) :
    NoLostWakeUp { s with batch := s.batch.erase .taskWatchdogFeed } :=
  h.mono id id (fun _ hne hs => hs.imp_left fun hb => Finset.mem_erase.mpr ⟨hne, hb⟩) id

theorem sig_cases (sig : Sig) :
    sig = .onRecvAdv ∨ sig = .taskWatchdogFeed ∨ sig ∈ .gwCfgReady :: otherSigs := by
  cases sig <;> decide

/-! ## The table -/

theorem publishHead_table (env : Env) (s : State) :
    (publishHead env s).table = (readRetransmissionList3Head s.table).2 := by
  unfold publishHead
  split
  · rename_i h
    rw [h]
  · rename_i h
    rw [h]

theorem inv_handleSig (env : Env) (sig : Sig) (h : Inv s.table) :
    Inv (handleSig env sig s).table := by
  by_cases hsig : sig = .onRecvAdv
  · subst hsig
    show Inv (handleSigRecvAdv env s).table
    unfold handleSigRecvAdv
    split
    · exact h
    · split
      · exact h
      · split
        · exact h
        · have hhead : Inv (publishHead env s).table :=
            publishHead_table env s ▸ inv_readRetransmissionList3Head h
          simp only
          split
          · exact hhead
          · exact hhead
  · rw [(handleSig_eq hsig env s).1]
    exact h

theorem relayingChanged_table (r : Relaying.Call × Relaying.GwStatus) (n : Relaying.Notify)
    (s : State) : (relayingChanged r n s).table = s.table := by
  unfold relayingChanged
  split
  · rfl
  · rfl

theorem inv_step {a : Step} (h : Inv s.table) (hstep : step s a = some t) : Inv t.table := by
  cases a with
  | recvAdv adv =>
    have hput := inv_put h adv
    rw [← Option.some.inj hstep]
    split
    · exact hput
    · exact hput
  | call op =>
    simp only [step] at hstep
    split at hstep
    · exact absurd hstep (by simp)
    · exact Option.some.inj hstep ▸ inv_exec h op
  | suspend kind | resume kind =>
    rw [← Option.some.inj hstep, relayingChanged_table]
    exact h
  | retryTimerFires | wait =>
    obtain ⟨-, rfl⟩ := Option.ite_some_none_eq_some.mp hstep
    exact h
  | handle sig env =>
    obtain ⟨-, rfl⟩ := Option.ite_some_none_eq_some.mp hstep
    exact inv_handleSig env sig h
  | mqttEventConnected | mqttEventDisconnected | gwCfgUpdate cfg | cfgModeActivated
  | cfgModeDeactivated | watchdogTimerFires => exact Option.some.inj hstep ▸ h

/-! ## One step -/

/-- A put that is not accepted leaves the list. -/
theorem noLostWakeUp_recvAdv (hi : Inv s.table) (h : NoLostWakeUp s) {adv : AdvReport}
    (hstep : step s (.recvAdv adv) = some t) : NoLostWakeUp t := by
  rw [← Option.some.inj hstep]
  split
  · exact noLostWakeUp_of_awake awake_sendSig
  · rename_i hacc
    obtain ⟨i, n, hput⟩ := put_discarded hi (Bool.eq_false_iff.mpr hacc)
    refine h.mono id (fun hnil => ?_) (fun _ _ => id) id
    rw [hput]
    exact hnil

/-- The task takes the pending signals: each is signalled as before. -/
theorem noLostWakeUp_wait (h : NoLostWakeUp s) (hstep : step s .wait = some t) :
    NoLostWakeUp t := by
  obtain ⟨hbatch, rfl⟩ := Option.ite_some_none_eq_some.mp hstep
  refine h.mono id id (fun sig _ hsig => ?_) id
  rcases hsig with hb | hp
  · exact absurd (hbatch ▸ hb) (Finset.notMem_empty sig)
  · exact .inl hp

/-- **One step leaves the task awake**, if it does not open the gates with the task asleep. -/
theorem NoLostWakeUp.step {a : Step} (hi : Inv s.table) (h : NoLostWakeUp s)
    (hok : OpensAwake s a) (hstep : step s a = some t) : NoLostWakeUp t := by
  cases a with
  | recvAdv adv => exact noLostWakeUp_recvAdv hi h hstep
  | call op =>
    simp only [AdvMqtt.step] at hstep
    split at hstep
    · exact absurd hstep (by simp)
    · rename_i hput
      rw [← Option.some.inj hstep]
      exact h.mono id (retransmissionList_exec_eq_nil hi (Bool.eq_false_iff.mpr hput))
        (fun _ _ => id) id
  | mqttEventConnected => exact Option.some.inj hstep ▸ noLostWakeUp_sendOther (by decide)
  | mqttEventDisconnected =>
    rw [← Option.some.inj hstep]
    exact h.mono (fun ho => absurd ho.1 (by simp)) id (fun _ _ => id) id
  | suspend kind =>
    exact Option.some.inj hstep ▸
      noLostWakeUp_relayingChanged h fun _ => suspend_relaying kind s.gw
  | resume kind =>
    exact Option.some.inj hstep ▸ noLostWakeUp_relayingChanged h (resume_relaying kind s.gw)
  | gwCfgUpdate cfg =>
    rw [← Option.some.inj hstep]
    exact h.mono id id (fun _ _ hs => State.Signalled.sendSig hs) id
  | cfgModeActivated => exact Option.some.inj hstep ▸ noLostWakeUp_sendOther (by decide)
  | cfgModeDeactivated => exact Option.some.inj hstep ▸ noLostWakeUp_sendOther (by decide)
  | watchdogTimerFires =>
    rw [← Option.some.inj hstep]
    exact h.mono id id (fun _ _ hs => hs.sendSig) id
  | retryTimerFires =>
    obtain ⟨-, rfl⟩ := Option.ite_some_none_eq_some.mp hstep
    exact noLostWakeUp_of_awake awake_sendSig
  | wait => exact noLostWakeUp_wait h hstep
  | handle sig env =>
    obtain ⟨-, rfl⟩ := Option.ite_some_none_eq_some.mp hstep
    rcases sig_cases sig with rfl | rfl | hchange
    · exact noLostWakeUp_handleSigRecvAdv env _
    · exact noLostWakeUp_watchdogFeed h
    · exact (noLostWakeUp_handle_iff hchange env s).mpr hok

/-- A step that opens the gates with the task asleep loses the wake-up. -/
theorem opensAwake_of_noLostWakeUp {a : Step} (hstep : step s a = some t)
    (h : NoLostWakeUp t) : OpensAwake s a := by
  cases a with
  | handle sig env =>
    intro hchange
    simp only [AdvMqtt.step] at hstep
    split at hstep
    · rw [← Option.some.inj hstep] at h
      exact (noLostWakeUp_handle_iff hchange env s).mp h hchange
    · exact absurd hstep (by simp)
  | _ => trivial

/-! ## Runs -/

/-- **While the gates are only opened with the task awake, no wake-up is lost**; and the first
step that opens them otherwise loses one. -/
theorem noLostWakeUp_of_opensAwake (h : system.ReachableVia OpensAwake s) :
    NoLostWakeUp s ∧ ∀ a t, system.step s a = some t → (NoLostWakeUp t ↔ OpensAwake s a) := by
  have hinv : Inv s.table ∧ NoLostWakeUp s := by
    refine h.invariant (P := fun u => Inv u.table ∧ NoLostWakeUp u) ?_
      fun u a v _ hu hok hstep => ⟨inv_step hu.1 hstep, hu.2.step hu.1 hok hstep⟩
    rintro u ⟨htable, -, -, hconn, -⟩
    refine ⟨htable ▸ inv_init, fun hopen => absurd hopen.1 ?_⟩
    rw [hconn]
    exact Bool.false_ne_true
  exact ⟨hinv.2, fun a t hstep => ⟨opensAwake_of_noLostWakeUp hstep,
    fun hok => hinv.2.step hinv.1 hok hstep⟩⟩

/-- The gateway when the task starts. -/
def initState : State where
  table := AdvTable.init
  gw := ⟨0, 0, false, false, false, false⟩
  mqttConnected := false
  gwCfg := ⟨false, false, 0⟩
  gwCfgReady := false
  cfgCache := ⟨false, false⟩
  pending := ∅
  batch := ∅
  timerRetrySendingAdvs := false
  published := []

/-- The buffer has room and the time is known. -/
def sampleEnv : Env := ⟨true, true, true, 1700000000, 1⟩

/-- The instant mode is on, MQTT is connected, and the connection has been handled. -/
def connectRun : List Step :=
  [.gwCfgUpdate ⟨true, true, 0⟩, .wait, .handle .gwCfgReady sampleEnv, .mqttEventConnected,
    .wait, .handle .mqttConnected sampleEnv]

/-- A report is received afterwards. -/
theorem noLostWakeUp_of_connectRun :
    ∃ s : State, s.table.retransmissionList .list3 ≠ [] ∧ s.mqttConnected = true ∧
      s.cfgCache.flagMqttInstantModeActive = true ∧ NoLostWakeUp s := by
  obtain ⟨s, hs, hp⟩ := System.exists_reachableVia_of_run (S := system) (C := OpensAwake)
    (s := initState) ⟨rfl, rfl, rfl, rfl, rfl, rfl, rfl⟩
    (connectRun ++ [.recvAdv sampleReport])
    (fun s => decide (s.table.retransmissionList .list3 ≠ [] ∧ s.mqttConnected = true ∧
      s.cfgCache.flagMqttInstantModeActive = true)) (by decide)
  obtain ⟨hne, hconn, hinst⟩ := of_decide_eq_true hp
  exact ⟨s, hne, hconn, hinst, (noLostWakeUp_of_opensAwake hs).1⟩

/-- The report is received, and handled, before MQTT is connected. -/
def connectAsleepRun : List Step :=
  [.gwCfgUpdate ⟨true, true, 0⟩, .wait, .handle .gwCfgReady sampleEnv, .recvAdv sampleReport,
    .wait, .handle .onRecvAdv sampleEnv, .mqttEventConnected, .wait,
    .handle .mqttConnected sampleEnv]

/-- **A report received before MQTT is connected can be forgotten.** -/
theorem connect_sleeps : ¬ ∀ s, system.Reachable s → NoLostWakeUp s := by
  intro hall
  obtain ⟨s, hs, hp⟩ := System.exists_reachable_of_run (S := system) (s := initState)
    ⟨rfl, rfl, rfl, rfl, rfl, rfl, rfl⟩ connectAsleepRun
    (fun s => decide ((s.mqttConnected = true ∧ s.gw.isRelayingViaMqttEnabled = true ∧
      s.cfgCache.flagMqttInstantModeActive = true) ∧
      s.table.retransmissionList .list3 ≠ [] ∧ (∀ sig ∈ otherSigs, ¬ s.Signalled sig) ∧
      ¬ s.Awake)) (by decide)
  obtain ⟨hopen, hne, hother, hasleep⟩ := of_decide_eq_true hp
  exact hasleep (hall s hs hopen hne hother)

end AdvMqtt
end RuuviGateway
