import Mathlib.Logic.Function.Basic
import RuuviGateway.Lib.TransitionSystem

/-!
# Which client a message is published through

The main task and the HTTP server start and stop the MQTT client, the task of the client reports
that it has connected, and the tasks `adv_mqtt` and `adv_post` publish.  The pointer to the
client is read and written under the mutex of `mqtt.c`; the events of the client are handled
without it.

The event of a connection is turned into a signal.  The signal is one bit, whatever number of
connections it stands for, and it is handled later by `adv_mqtt`, which publishes "online"
through the client that exists *then*.  So the model keeps with the signal the clients that have
caused it.

A client is named by a number of its own, as an address can be given out again after a client
has been destroyed.
-/

namespace RuuviGateway
namespace Mqtt
namespace Publish

open TransitionSystem

/-! ## The state -/

/-- What becomes of a client. -/
inductive Client where
  | absent
  /-- `esp_mqtt_client_init` has created it. -/
  | created
  /-- Its task runs. -/
  | started
  /-- Its task runs `mqtt_event_handler`, between the status and the signal. -/
  | notifying
  | destroyed
  deriving DecidableEq, Repr

/-- The client can be used. -/
def Client.Live : Client → Prop
  | .created | .started | .notifying => True
  | .absent | .destroyed => False

instance : DecidablePred Client.Live := fun c => by
  cases c <;> unfold Client.Live <;> infer_instance

/-- The task of the client exists. -/
def Client.Running : Client → Prop
  | .started | .notifying => True
  | .absent | .created | .destroyed => False

instance : DecidablePred Client.Running := fun c => by
  cases c <;> unfold Client.Running <;> infer_instance

/-- The tasks that start and stop the client. -/
inductive Caller where
  | mainTask
  | httpServer
  deriving DecidableEq, Repr

/-- The tasks that lock the mutex. -/
inductive Task where
  | caller (c : Caller)
  | advMqtt
  | advPost
  deriving DecidableEq, Repr

/-- Where a task is. -/
inductive Pc where
  | outside
  /-- `mqtt_app_start` has the mutex. -/
  | startLocked
  /-- The client has been created and is not started yet. -/
  | startInit
  /-- The client could not be started. -/
  | startFailed
  /-- `mqtt_app_start_internal2`, before the pointer is cleared. -/
  | startDestroyed
  /-- `mqtt_app_stop` has the mutex. -/
  | stopLocked
  /-- "offline" has been published, if it is to be. -/
  | stopping
  /-- The client is destroyed, and the pointer is not cleared yet. -/
  | stopDestroyed
  /-- `mqtt_publish_adv`, before the mutex. -/
  | publishAdv
  | publishAdvLocked
  /-- `mqtt_publish_connect` has the mutex. -/
  | publishConnectLocked
  deriving DecidableEq, Repr

/-- The task has the mutex. -/
def Pc.Holds : Pc → Prop
  | .outside | .publishAdv => False
  | _ => True

/-- What is published. -/
inductive Message where
  /-- With the clients whose connections have caused the message. -/
  | online (causes : List Nat)
  | offline
  | adv
  deriving DecidableEq, Repr

/-- A call of `esp_mqtt_client_publish`. -/
structure Call where
  client : Option Nat
  /-- The client exists. -/
  live : Bool
  message : Message
  deriving DecidableEq, Repr

/-- The signals that `adv_mqtt` has taken, as far as they matter. -/
structure Batch where
  onRecvAdv : Bool
  mqttConnected : Option (List Nat)
  deriving DecidableEq, Repr

structure State where
  /-- The number of the next client. -/
  clients : Nat
  client : Nat → Client
  /-- `p_mqtt_client`. -/
  mqttClient : Option Nat
  /-- `g_mqtt_mutex`. -/
  mutex : Option Task
  pc : Task → Pc
  /-- The bit of `gw_status.c`. -/
  mqttConnected : Bool
  /-- `ADV_MQTT_SIG_MQTT_CONNECTED` is pending. -/
  sigMqttConnected : Option (List Nat)
  batch : Batch
  /-- The calls of `esp_mqtt_client_publish`, the newest first. -/
  calls : List Call

/-- The state after the start of the gateway. -/
def State.init : State where
  clients := 0
  client := fun _ => .absent
  mqttClient := none
  mutex := none
  pc := fun _ => .outside
  mqttConnected := false
  sigMqttConnected := none
  batch := ⟨false, none⟩
  calls := []

/-- The task goes on. -/
def State.goto (s : State) (t : Task) (p : Pc) : State :=
  { s with pc := Function.update s.pc t p }

/-- `mqtt_mutex_lock`. -/
def State.lock (s : State) (t : Task) (p : Pc) : State :=
  { s with mutex := some t, pc := Function.update s.pc t p }

/-- `mqtt_mutex_unlock`, with the return. -/
def State.unlock (s : State) (t : Task) : State :=
  { s with mutex := none, pc := Function.update s.pc t .outside }

def State.setClient (s : State) (h : Nat) (c : Client) : State :=
  { s with client := Function.update s.client h c }

/-- `esp_mqtt_client_publish`, with the pointer of `g_mqtt_data`. -/
def State.publish (s : State) (m : Message) : State :=
  { s with calls :=
      ⟨s.mqttClient, s.mqttClient.any fun h => decide (s.client h).Live, m⟩ :: s.calls }

/-! ## The steps -/

/-- The steps of `mqtt_app_start` and `mqtt_app_stop`. -/
inductive CallerOp where
  | start
  /-- The client is running already, or there is none and it cannot be created. -/
  | startReturn
  /-- `esp_mqtt_client_init`. -/
  | startInit
  /-- `esp_mqtt_client_start`. -/
  | startClient (ok : Bool)
  /-- `esp_mqtt_client_destroy` after that. -/
  | startDestroy (ok : Bool)
  /-- The pointer is cleared, and the mutex unlocked. -/
  | startClear
  | stop
  /-- There is no client. -/
  | stopReturn
  /-- `gw_status_is_mqtt_connected`, and `mqtt_publish_state_offline`. -/
  | stopOffline
  /-- `esp_mqtt_client_destroy`.  If it fails the gateway is restarted. -/
  | stopDestroy (ok : Bool)
  /-- The pointer is cleared, and the mutex unlocked. -/
  | stopClear
  deriving DecidableEq, Repr

/-- A step of `mqtt_app_start` or `mqtt_app_stop`. -/
def callerStep (c : Caller) (s : State) : CallerOp → Option State
  | .start =>
    if s.pc (.caller c) = .outside ∧ s.mutex = none then
      some (s.lock (.caller c) .startLocked)
    else none
  | .startReturn =>
    if s.pc (.caller c) = .startLocked then
      some ({ s with mqttConnected := s.mqttClient.isSome && s.mqttConnected }.unlock (.caller c))
    else none
  | .startInit =>
    if s.pc (.caller c) = .startLocked ∧ s.mqttClient = none then
      some <| { s.setClient s.clients .created with
        clients := s.clients + 1
        mqttClient := some s.clients
        mqttConnected := false }.goto (.caller c) .startInit
    else none
  | .startClient ok =>
    if s.pc (.caller c) = .startInit then
      s.mqttClient.map fun h =>
        if ok then (s.setClient h .started).unlock (.caller c)
        else s.goto (.caller c) .startFailed
    else none
  | .startDestroy ok =>
    if s.pc (.caller c) = .startFailed then
      s.mqttClient.map fun h =>
        (if ok then s.setClient h .destroyed else s).goto (.caller c) .startDestroyed
    else none
  | .startClear =>
    if s.pc (.caller c) = .startDestroyed then
      some ({ s with mqttClient := none }.unlock (.caller c))
    else none
  | .stop =>
    if s.pc (.caller c) = .outside ∧ s.mutex = none then
      some (s.lock (.caller c) .stopLocked)
    else none
  | .stopReturn =>
    if s.pc (.caller c) = .stopLocked ∧ s.mqttClient = none then
      some ({ s with mqttConnected := false }.unlock (.caller c))
    else none
  | .stopOffline =>
    if s.pc (.caller c) = .stopLocked ∧ s.mqttClient.isSome then
      some ((if s.mqttConnected then s.publish .offline else s).goto (.caller c) .stopping)
    else none
  | .stopDestroy ok =>
    if s.pc (.caller c) = .stopping then
      s.mqttClient.bind fun h =>
        if !ok then some (s.unlock (.caller c))
        -- `esp_mqtt_client_destroy` succeeds only when the task of the client has ended
        else if s.client h = .notifying then none
        else some ((s.setClient h .destroyed).goto (.caller c) .stopDestroyed)
    else none
  | .stopClear =>
    if s.pc (.caller c) = .stopDestroyed then
      some ({ s with mqttClient := none, mqttConnected := false }.unlock (.caller c))
    else none

/-- What the task of a client does in `mqtt_event_handler`. -/
inductive EventOp where
  /-- `MQTT_EVENT_CONNECTED`: `gw_status_set_mqtt_connected`. -/
  | connected
  /-- `event_mgr_notify`, which sends the signal to `adv_mqtt`. -/
  | notify
  /-- `MQTT_EVENT_DISCONNECTED`. -/
  | disconnected
  deriving DecidableEq, Repr

/-- A step of `mqtt_event_handler`. -/
def eventStep (h : Nat) (s : State) : EventOp → Option State
  | .connected =>
    if s.client h = .started then
      some { s.setClient h .notifying with mqttConnected := true }
    else none
  | .notify =>
    if s.client h = .notifying then
      some { s.setClient h .started with
        sigMqttConnected := some (h :: s.sigMqttConnected.getD []) }
    else none
  | .disconnected =>
    if s.client h = .started then some { s with mqttConnected := false } else none

/-- The steps of the tasks that publish. -/
inductive PublishOp where
  /-- `os_signal_wait_with_timeout` of `adv_mqtt`; whether `ON_RECV_ADV` is pending. -/
  | takeSignals (onRecvAdv : Bool)
  /-- `adv_mqtt_handle_sig_recv_adv`; whether all that is not modelled here lets it publish. -/
  | handleRecvAdv (publishes : Bool)
  /-- `adv_post` calls `mqtt_publish_adv`. -/
  | advPostPublish
  /-- `mqtt_publish_adv` locks the mutex. -/
  | publishAdvLock (t : Task)
  /-- The rest of it; whether the message fits into the buffer. -/
  | publishAdv (t : Task) (fits : Bool)
  /-- `adv_mqtt_handle_sig_mqtt_connected`: `mqtt_publish_connect` locks the mutex. -/
  | publishConnectLock
  /-- The rest of it. -/
  | publishConnect
  deriving DecidableEq, Repr

/-- A step of `adv_mqtt` or `adv_post`. -/
def publishStep (s : State) : PublishOp → Option State
  | .takeSignals onRecvAdv =>
    if s.pc .advMqtt = .outside ∧ s.batch = ⟨false, none⟩ then
      some { s with batch := ⟨onRecvAdv, s.sigMqttConnected⟩, sigMqttConnected := none }
    else none
  | .handleRecvAdv publishes =>
    if s.pc .advMqtt = .outside ∧ s.batch.onRecvAdv = true then
      some ({ s with batch := { s.batch with onRecvAdv := false } }.goto .advMqtt
        (if s.mqttConnected && publishes then .publishAdv else .outside))
    else none
  | .advPostPublish =>
    if s.pc .advPost = .outside then some (s.goto .advPost .publishAdv) else none
  | .publishAdvLock t =>
    if s.pc t = .publishAdv ∧ s.mutex = none then some (s.lock t .publishAdvLocked) else none
  | .publishAdv t fits =>
    if s.pc t = .publishAdvLocked then
      some ((if s.mqttClient.isSome && fits then s.publish .adv else s).unlock t)
    else none
  | .publishConnectLock =>
    -- the signals are handled in the order of their numbers
    if s.pc .advMqtt = .outside ∧ s.batch.onRecvAdv = false ∧ s.batch.mqttConnected.isSome ∧
        s.mutex = none then
      some (s.lock .advMqtt .publishConnectLocked)
    else none
  | .publishConnect =>
    if s.pc .advMqtt = .publishConnectLocked then
      s.batch.mqttConnected.map fun causes =>
        { s.publish (.online causes) with batch := ⟨false, none⟩ }.unlock .advMqtt
    else none

/-- A step of one of the tasks. -/
inductive Step where
  | caller (c : Caller) (op : CallerOp)
  | event (h : Nat) (op : EventOp)
  | publish (op : PublishOp)
  deriving DecidableEq, Repr

def step (s : State) : Step → Option State
  | .caller c op => callerStep c s op
  | .event h op => eventStep h s op
  | .publish op => publishStep s op

/-- The tasks, in any order of their steps. -/
def system : System State Step where
  init s := s = State.init
  step := step

/-! ## The property -/

/-- The client exists, and a message "online" goes through a client whose connection has caused
it. -/
structure Call.Ok (c : Call) : Prop where
  notNull : c.client ≠ none
  live : c.live = true
  online : ∀ causes, c.message = .online causes → ∃ h ∈ causes, c.client = some h

/-- **The property**: so it is with every call. -/
def State.Ok (s : State) : Prop := ∀ c ∈ s.calls, c.Ok

/-- **The condition**: `mqtt_app_stop` destroys the client while no signal of a connection is
pending or in the hands of `adv_mqtt`. -/
def Handled (s : State) : Step → Prop
  | .caller _ (.stopDestroy ok) =>
    ok = true → s.sigMqttConnected = none ∧ s.batch.mqttConnected = none
  | _ => True

instance (s : State) (a : Step) : Decidable (Handled s a) := by
  cases a with
  | caller c op => cases op <;> unfold Handled <;> infer_instance
  | event h op => exact inferInstanceAs (Decidable True)
  | publish op => exact inferInstanceAs (Decidable True)

/-! ## The invariant -/

/-- The pointer is that of a client that exists. -/
def State.Usable (s : State) : Prop := ∀ h, s.mqttClient = some h → (s.client h).Live

/-- The client that exists is one of those whose connections are signalled, and it is running. -/
def State.Announced (s : State) (causes : List Nat) : Prop :=
  ∃ h ∈ causes, s.mqttClient = some h ∧ (s.client h).Running

/-- What the task that has the mutex knows of the client. -/
def Pc.Sees (s : State) : Pc → Prop
  | .startInit | .startFailed => ∃ h, s.mqttClient = some h ∧ s.client h = .created
  | .startDestroyed | .stopDestroyed => ∀ h, s.mqttClient = some h → ¬ (s.client h).Running
  | _ => s.Usable

/-- What holds in the runs that meet the condition. -/
structure Inv (s : State) : Prop where
  absent : ∀ h, s.clients ≤ h → s.client h = .absent
  running : ∀ h, (s.client h).Running → s.mqttClient = some h
  holder : ∀ t, (s.pc t).Holds → s.mutex = some t ∧ (s.pc t).Sees s
  free : s.mutex = none → s.Usable
  sig : ∀ causes, s.sigMqttConnected = some causes → s.Announced causes
  taken : ∀ causes, s.batch.mqttConnected = some causes → s.Announced causes
  calls : s.Ok

theorem inv_init : Inv State.init where
  absent := fun _ _ => rfl
  running := fun _ h => h.elim
  holder := fun _ h => h.elim
  free := fun _ _ h => absurd h (by simp [State.init])
  sig := fun _ h => absurd h (by simp [State.init])
  taken := fun _ h => absurd h (by simp [State.init])
  calls := fun _ h => absurd h (by simp [State.init])

theorem Client.Running.live {c : Client} (h : c.Running) : c.Live := by
  cases c <;> simp_all [Client.Running, Client.Live]

/-- Only one task has the mutex. -/
theorem Inv.eq_of_holds {s : State} (hs : Inv s) {t u : Task} (ht : (s.pc t).Holds)
    (hu : (s.pc u).Holds) : u = t := by
  have hown := (hs.holder t ht).1
  rw [(hs.holder u hu).1] at hown
  exact Option.some.inj hown

/-- While the mutex is free, no task has it. -/
theorem Inv.not_holds_of_free {s : State} (hs : Inv s) (hfree : s.mutex = none) (t : Task) :
    ¬ (s.pc t).Holds := by
  intro ht
  rw [(hs.holder t ht).1] at hfree
  exact absurd hfree (by simp)

/-- A task that changes its place while no other has the mutex. -/
theorem holder_of_update {s s' : State} {t : Task} {p : Pc}
    (hothers : ∀ u, (s.pc u).Holds → u = t) (hpc : s'.pc = Function.update s.pc t p)
    (hp : p.Holds → s'.mutex = some t ∧ p.Sees s') :
    ∀ u, (s'.pc u).Holds → s'.mutex = some u ∧ (s'.pc u).Sees s' := by
  intro u hu
  rw [hpc] at hu ⊢
  by_cases hut : u = t
  · subst hut
    rw [Function.update_self] at hu ⊢
    exact hp hu
  · rw [Function.update_of_ne hut] at hu
    exact absurd (hothers u hu) hut

/-- What a task sees depends on the clients only. -/
theorem Pc.Sees.congr {s s' : State} (hptr : s'.mqttClient = s.mqttClient)
    (hclient : s'.client = s.client) {p : Pc} (h : p.Sees s) : p.Sees s' := by
  cases p <;> simpa only [Pc.Sees, State.Usable, hptr, hclient] using h

/-- A step that leaves the clients and the signals of connections as they are. -/
theorem Inv.move {s s' : State} (hs : Inv s) (hclients : s'.clients = s.clients)
    (hclient : s'.client = s.client) (hptr : s'.mqttClient = s.mqttClient)
    (hsig : s'.sigMqttConnected = s.sigMqttConnected)
    (hbatch : s'.batch.mqttConnected = s.batch.mqttConnected)
    (hholder : ∀ t, (s'.pc t).Holds → s'.mutex = some t ∧ (s'.pc t).Sees s')
    (hfree : s'.mutex = none → s.Usable) (hcalls : s'.Ok) : Inv s' where
  absent := by
    rw [hclients, hclient]
    exact hs.absent
  running := by
    rw [hclient, hptr]
    exact hs.running
  holder := hholder
  free := fun h => Pc.Sees.congr (p := .startLocked) hptr hclient (hfree h)
  sig := by
    unfold State.Announced
    rw [hsig, hptr, hclient]
    exact hs.sig
  taken := by
    unfold State.Announced
    rw [hbatch, hptr, hclient]
    exact hs.taken
  calls := hcalls

/-- A call through the client that exists. -/
theorem State.Ok.publish {s : State} {h : Nat} {m : Message} (hs : s.Ok)
    (hptr : s.mqttClient = some h) (hlive : (s.client h).Live)
    (hm : ∀ causes, m = .online causes → h ∈ causes) : (s.publish m).Ok := by
  intro c hc
  rcases List.mem_cons.mp hc with rfl | hold
  · refine ⟨?_, ?_, fun causes hcauses => ⟨h, hm causes hcauses, hptr⟩⟩
    · rw [hptr]
      exact Option.some_ne_none h
    · rw [hptr]
      exact decide_eq_true hlive
  · exact hs c hold

/-- The mutex is locked. -/
theorem Inv.lock {s : State} (hs : Inv s) (hfree : s.mutex = none) (t : Task) {p : Pc}
    (hp : p.Sees (s.lock t p)) : Inv (s.lock t p) :=
  hs.move rfl rfl rfl rfl rfl
    (holder_of_update (fun u hu => absurd hu (hs.not_holds_of_free hfree u)) rfl
      fun _ => ⟨rfl, hp⟩)
    (fun h => absurd h (by simp [State.lock])) hs.calls

/-- The mutex is unlocked by the task that has it. -/
theorem Inv.unlock {s u : State} {t : Task} (hs : Inv s) (ht : (s.pc t).Holds)
    (hclients : u.clients = s.clients) (hclient : u.client = s.client)
    (hptr : u.mqttClient = s.mqttClient) (hsig : u.sigMqttConnected = s.sigMqttConnected)
    (hbatch : u.batch.mqttConnected = s.batch.mqttConnected) (hpc : u.pc = s.pc)
    (husable : s.Usable) (hcalls : u.Ok) : Inv (u.unlock t) :=
  hs.move hclients hclient hptr hsig hbatch
    (holder_of_update (p := .outside) (fun _ hv => hs.eq_of_holds ht hv) (by rw [← hpc]; rfl)
      fun (hp : False) => hp.elim)
    (fun _ => husable) hcalls

/-- The task that has the mutex goes on. -/
theorem Inv.goto {s s' : State} {t : Task} {p : Pc} (hs : Inv s) (ht : (s.pc t).Holds)
    (hclients : s'.clients = s.clients) (hclient : s'.client = s.client)
    (hptr : s'.mqttClient = s.mqttClient) (hsig : s'.sigMqttConnected = s.sigMqttConnected)
    (hbatch : s'.batch.mqttConnected = s.batch.mqttConnected) (hpc : s'.pc = s.pc)
    (hmutex : s'.mutex = s.mutex) (hp : p.Sees s) (hcalls : s'.Ok) : Inv (s'.goto t p) :=
  have hown : s'.mutex = some t := hmutex.trans (hs.holder t ht).1
  hs.move hclients hclient hptr hsig hbatch
    (holder_of_update (fun _ hu => hs.eq_of_holds ht hu) (by rw [← hpc]; rfl)
      fun _ => ⟨hown, hp.congr hptr hclient⟩)
    (fun h => absurd (hown.symm.trans h) (by simp)) hcalls

/-- A task without the mutex goes on without it. -/
theorem Inv.wait {s s' : State} {t : Task} {p : Pc} (hs : Inv s) (ht : ¬ (s.pc t).Holds)
    (hp : ¬ p.Holds) (hpc : s'.pc = Function.update s.pc t p) (hclients : s'.clients = s.clients)
    (hclient : s'.client = s.client) (hptr : s'.mqttClient = s.mqttClient)
    (hsig : s'.sigMqttConnected = s.sigMqttConnected)
    (hbatch : s'.batch.mqttConnected = s.batch.mqttConnected) (hmutex : s'.mutex = s.mutex)
    (hcalls : s'.calls = s.calls) : Inv s' := by
  refine hs.move hclients hclient hptr hsig hbatch (fun u hu => ?_)
    (fun h => hs.free (hmutex ▸ h)) (by unfold State.Ok; rw [hcalls]; exact hs.calls)
  rw [hpc] at hu ⊢
  have hne : u ≠ t := by
    rintro rfl
    rw [Function.update_self] at hu
    exact hp hu
  rw [Function.update_of_ne hne] at hu ⊢
  obtain ⟨hown, hsees⟩ := hs.holder u hu
  exact ⟨hmutex.trans hown, hsees.congr hptr hclient⟩

/-- No signal is left of a client that does not run. -/
theorem Inv.quiet {s : State} (hs : Inv s)
    (hptr : ∀ h, s.mqttClient = some h → ¬ (s.client h).Running) :
    s.sigMqttConnected = none ∧ s.batch.mqttConnected = none := by
  have hnone : ∀ causes, ¬ s.Announced causes :=
    fun _ ⟨h, _, hclient, hrun⟩ => hptr h hclient hrun
  exact ⟨Option.eq_none_iff_forall_ne_some.mpr fun causes h => hnone causes (hs.sig causes h),
    Option.eq_none_iff_forall_ne_some.mpr fun causes h => hnone causes (hs.taken causes h)⟩

/-- The task that has the mutex changes the client while no connection is signalled. -/
theorem Inv.change {s s' : State} {t : Task} {p : Pc} (hs : Inv s) (ht : (s.pc t).Holds)
    (hquiet : s.sigMqttConnected = none ∧ s.batch.mqttConnected = none)
    (hsig : s'.sigMqttConnected = s.sigMqttConnected)
    (hbatch : s'.batch.mqttConnected = s.batch.mqttConnected)
    (hpc : s'.pc = Function.update s.pc t p)
    (habsent : ∀ h, s'.clients ≤ h → s'.client h = .absent)
    (hrunning : ∀ h, (s'.client h).Running → s'.mqttClient = some h)
    (hp : p.Holds → s'.mutex = some t ∧ p.Sees s') (hfree : s'.mutex = none → s'.Usable)
    (hcalls : s'.calls = s.calls) : Inv s' where
  absent := habsent
  running := hrunning
  holder := holder_of_update (fun _ hu => hs.eq_of_holds ht hu) hpc hp
  free := hfree
  sig := fun _ h => absurd ((hsig.trans hquiet.1).symm.trans h) (by simp)
  taken := fun _ h => absurd ((hbatch.trans hquiet.2).symm.trans h) (by simp)
  calls := by
    unfold State.Ok
    rw [hcalls]
    exact hs.calls

/-- The client of the pointer is destroyed or started: the others are as they were. -/
theorem Inv.absent_setClient {s : State} (hs : Inv s) {h : Nat} (c : Client)
    (hexists : s.client h ≠ .absent) (k : Nat) (hk : s.clients ≤ k) :
    (s.setClient h c).client k = .absent := by
  have hne : k ≠ h := by
    rintro rfl
    exact hexists (hs.absent k hk)
  show Function.update s.client h c k = _
  rw [Function.update_of_ne hne]
  exact hs.absent k hk

/-- No other client runs. -/
theorem Inv.running_setClient {s : State} (hs : Inv s) {h : Nat} (c : Client)
    (hptr : s.mqttClient = some h) (k : Nat) (hk : ((s.setClient h c).client k).Running) :
    s.mqttClient = some k := by
  by_cases hkh : k = h
  · rw [hkh]
    exact hptr
  · refine hs.running k ?_
    change (Function.update s.client h c k).Running at hk
    rwa [Function.update_of_ne hkh] at hk

/-- The pointer is that of a client that has been destroyed. -/
theorem not_running_of_destroyed {s : State} {h : Nat} (hptr : s.mqttClient = some h) (k : Nat)
    (hk : s.mqttClient = some k) : ¬ ((s.setClient h .destroyed).client k).Running := by
  have hkh : k = h := Option.some.inj (hk.symm.trans hptr)
  subst hkh
  show ¬ (Function.update s.client k .destroyed k).Running
  rw [Function.update_self]
  exact id

theorem Client.Live.ne_absent {c : Client} (h : c.Live) : c ≠ .absent := by
  rintro rfl
  exact h

/-- The pointer is cleared. -/
theorem Inv.clear {s s' : State} {t : Task} (hs : Inv s) (ht : (s.pc t).Holds)
    (hrun : ∀ h, s.mqttClient = some h → ¬ (s.client h).Running)
    (hclients : s'.clients = s.clients) (hclient : s'.client = s.client)
    (hptr : s'.mqttClient = none) (hsig : s'.sigMqttConnected = s.sigMqttConnected)
    (hbatch : s'.batch.mqttConnected = s.batch.mqttConnected) (hpc : s'.pc = s.pc)
    (hcalls : s'.calls = s.calls) : Inv (s'.unlock t) := by
  refine hs.change ht (hs.quiet hrun) hsig hbatch (p := .outside) (by rw [← hpc]; rfl) ?_ ?_
    (fun (hp : False) => hp.elim) ?_ hcalls
  · show ∀ h, s'.clients ≤ h → s'.client h = .absent
    rw [hclients, hclient]
    exact hs.absent
  · intro h hh
    change (s'.client h).Running at hh
    rw [hclient] at hh
    exact absurd hh (hrun h (hs.running h hh))
  · intro _ h hh
    exact absurd (hptr.symm.trans hh) (by simp)

/-- A client is created, and the pointer is its. -/
theorem Inv.create {s : State} {t : Task} (hs : Inv s) (ht : (s.pc t).Holds)
    (hnull : s.mqttClient = none) :
    Inv ({ s.setClient s.clients .created with
      clients := s.clients + 1
      mqttClient := some s.clients
      mqttConnected := false }.goto t .startInit) := by
  have hown := (hs.holder t ht).1
  have hrun : ∀ h, ¬ (s.client h).Running := fun h hh =>
    absurd (hnull.symm.trans (hs.running h hh)) (by simp)
  refine hs.change ht (hs.quiet fun h _ => hrun h) rfl rfl (p := .startInit) rfl
    (fun h hh => ?_) (fun h hh => ?_) (fun _ => ⟨hown, s.clients, rfl, ?_⟩)
    (fun h => absurd (hown.symm.trans h) (by simp)) rfl
  · change s.clients + 1 ≤ h at hh
    show Function.update s.client s.clients .created h = _
    rw [Function.update_of_ne (by omega)]
    exact hs.absent h (by omega)
  · change (Function.update s.client s.clients .created h).Running at hh
    by_cases heq : h = s.clients
    · rw [heq]
      rfl
    · rw [Function.update_of_ne heq] at hh
      exact absurd hh (hrun h)
  · exact Function.update_self ..

/-- A client that has been created does not run, and is the only one. -/
theorem not_running_of_created {s : State} {h : Nat} (hptr : s.mqttClient = some h)
    (hcreated : s.client h = .created) (k : Nat) (hk : s.mqttClient = some k) :
    ¬ (s.client k).Running := by
  rw [Option.some.inj (hk.symm.trans hptr), hcreated]
  exact id

/-- The client is started, and the mutex unlocked. -/
theorem Inv.start {s : State} {t : Task} {h : Nat} (hs : Inv s) (ht : (s.pc t).Holds)
    (hptr : s.mqttClient = some h) (hcreated : s.client h = .created) :
    Inv ((s.setClient h .started).unlock t) := by
  refine hs.change ht (hs.quiet (not_running_of_created hptr hcreated)) rfl rfl
    (p := .outside) rfl (hs.absent_setClient _ (by rw [hcreated]; decide))
    (hs.running_setClient _ hptr) (fun (hp : False) => hp.elim) (fun _ k hk => ?_) rfl
  rw [Option.some.inj ((hptr.symm.trans hk).symm)]
  show (Function.update s.client h .started h).Live
  rw [Function.update_self]
  trivial

/-- The client is destroyed while no connection is signalled. -/
theorem Inv.destroy {s : State} {t : Task} {p : Pc} {h : Nat} (hs : Inv s)
    (ht : (s.pc t).Holds) (hp : p = .startDestroyed ∨ p = .stopDestroyed)
    (hquiet : s.sigMqttConnected = none ∧ s.batch.mqttConnected = none)
    (hptr : s.mqttClient = some h) (hexists : s.client h ≠ .absent) :
    Inv ((s.setClient h .destroyed).goto t p) := by
  have hown := (hs.holder t ht).1
  have hsees : p.Sees ((s.setClient h .destroyed).goto t p) := by
    rcases hp with rfl | rfl
    · exact not_running_of_destroyed hptr
    · exact not_running_of_destroyed hptr
  exact hs.change ht hquiet rfl rfl rfl (hs.absent_setClient _ hexists)
    (hs.running_setClient _ hptr) (fun _ => ⟨hown, hsees⟩)
    (fun h => absurd (hown.symm.trans h) (by simp)) rfl

/-! ## The steps keep it -/

/-- What the task at `p` knows. -/
theorem Inv.sees {s : State} (hs : Inv s) {t : Task} {p : Pc} (ht : s.pc t = p)
    (hp : p.Holds) : p.Sees s := by
  subst ht
  exact (hs.holder t hp).2

theorem inv_callerStep {c : Caller} {op : CallerOp} {s s' : State} (hs : Inv s)
    (hok : Handled s (.caller c op)) (hstep : callerStep c s op = some s') : Inv s' := by
  cases op with
  | start =>
    obtain ⟨⟨-, hfree⟩, rfl⟩ := Option.ite_some_none_eq_some.mp hstep
    exact hs.lock hfree _ (hs.free hfree)
  | startReturn =>
    obtain ⟨hpc, rfl⟩ := Option.ite_some_none_eq_some.mp hstep
    exact hs.unlock (by rw [hpc]; trivial) rfl rfl rfl rfl rfl rfl
      (hs.sees hpc trivial) hs.calls
  | startInit =>
    obtain ⟨⟨hpc, hnull⟩, rfl⟩ := Option.ite_some_none_eq_some.mp hstep
    exact hs.create (by rw [hpc]; trivial) hnull
  | startClient ok =>
    obtain ⟨hpc, hstep⟩ := Option.ite_none_right_eq_some.mp hstep
    have hholds : (s.pc (.caller c)).Holds := by rw [hpc]; trivial
    obtain ⟨h, hptr, hcreated⟩ := hs.sees hpc trivial
    rw [hptr] at hstep
    cases ok with
    | true =>
      obtain rfl := Option.some.inj hstep
      exact hs.start hholds hptr hcreated
    | false =>
      obtain rfl := Option.some.inj hstep
      exact hs.goto hholds rfl rfl rfl rfl rfl rfl rfl ⟨h, hptr, hcreated⟩ hs.calls
  | startDestroy ok =>
    obtain ⟨hpc, hstep⟩ := Option.ite_none_right_eq_some.mp hstep
    have hholds : (s.pc (.caller c)).Holds := by rw [hpc]; trivial
    obtain ⟨h, hptr, hcreated⟩ := hs.sees hpc trivial
    have hrun := not_running_of_created hptr hcreated
    rw [hptr] at hstep
    cases ok with
    | true =>
      obtain rfl := Option.some.inj hstep
      exact hs.destroy hholds (.inl rfl) (hs.quiet hrun) hptr (by rw [hcreated]; decide)
    | false =>
      obtain rfl := Option.some.inj hstep
      exact hs.goto hholds rfl rfl rfl rfl rfl rfl rfl hrun hs.calls
  | startClear =>
    obtain ⟨hpc, rfl⟩ := Option.ite_some_none_eq_some.mp hstep
    exact hs.clear (by rw [hpc]; trivial) (hs.sees hpc trivial) rfl rfl rfl rfl rfl rfl rfl
  | stop =>
    obtain ⟨⟨-, hfree⟩, rfl⟩ := Option.ite_some_none_eq_some.mp hstep
    exact hs.lock hfree _ (hs.free hfree)
  | stopReturn =>
    obtain ⟨⟨hpc, -⟩, rfl⟩ := Option.ite_some_none_eq_some.mp hstep
    exact hs.unlock (by rw [hpc]; trivial) rfl rfl rfl rfl rfl rfl
      (hs.sees hpc trivial) hs.calls
  | stopOffline =>
    obtain ⟨⟨hpc, hsome⟩, rfl⟩ := Option.ite_some_none_eq_some.mp hstep
    have hholds : (s.pc (.caller c)).Holds := by rw [hpc]; trivial
    have husable : s.Usable := hs.sees hpc trivial
    obtain ⟨h, hptr⟩ := Option.isSome_iff_exists.mp hsome
    by_cases hconn : s.mqttConnected = true
    · rw [if_pos hconn]
      exact hs.goto hholds rfl rfl rfl rfl rfl rfl rfl husable
        (hs.calls.publish hptr (husable h hptr) fun _ h => nomatch h)
    · rw [if_neg hconn]
      exact hs.goto hholds rfl rfl rfl rfl rfl rfl rfl husable hs.calls
  | stopDestroy ok =>
    obtain ⟨hpc, hstep⟩ := Option.ite_none_right_eq_some.mp hstep
    have hholds : (s.pc (.caller c)).Holds := by rw [hpc]; trivial
    have husable : s.Usable := hs.sees hpc trivial
    obtain ⟨h, hptr, hstep⟩ := Option.bind_eq_some_iff.mp hstep
    cases ok with
    | true =>
      rw [if_neg (by simp)] at hstep
      obtain ⟨-, hstep⟩ := Option.ite_none_left_eq_some.mp hstep
      obtain rfl := Option.some.inj hstep
      exact hs.destroy hholds (.inr rfl) (hok rfl) hptr (husable h hptr).ne_absent
    | false =>
      obtain rfl := Option.some.inj hstep
      exact hs.unlock hholds rfl rfl rfl rfl rfl rfl husable hs.calls
  | stopClear =>
    obtain ⟨hpc, rfl⟩ := Option.ite_some_none_eq_some.mp hstep
    exact hs.clear (by rw [hpc]; trivial) (hs.sees hpc trivial) rfl rfl rfl rfl rfl rfl rfl

/-- The task of a client runs on: nothing changes for the others. -/
theorem Inv.event {s s' : State} {h : Nat} {c : Client} (hs : Inv s)
    (hrun : (s.client h).Running) (hc : c.Running) (hclients : s'.clients = s.clients)
    (hclient : s'.client = Function.update s.client h c) (hptr : s'.mqttClient = s.mqttClient)
    (hmutex : s'.mutex = s.mutex) (hpc : s'.pc = s.pc) (hbatch : s'.batch = s.batch)
    (hcalls : s'.calls = s.calls)
    (hsig : ∀ causes, s'.sigMqttConnected = some causes →
      h ∈ causes ∨ s.sigMqttConnected = some causes) : Inv s' := by
  have hself : s'.client h = c := by rw [hclient, Function.update_self]
  have hother : ∀ k, k ≠ h → s'.client k = s.client k := fun k hk => by
    rw [hclient, Function.update_of_ne hk]
  have hcur : s.mqttClient = some h := hs.running h hrun
  have hcurRun : (s'.client h).Running := by rw [hself]; exact hc
  have husable : s'.Usable := fun k hk => by
    obtain rfl : h = k := Option.some.inj (hcur.symm.trans (hptr.symm.trans hk))
    exact hcurRun.live
  have hannounced : ∀ causes, h ∈ causes → s'.Announced causes := fun causes hmem =>
    ⟨h, hmem, hptr.trans hcur, hcurRun⟩
  have hkeep : ∀ causes, s.Announced causes → s'.Announced causes := by
    rintro causes ⟨k, hmem, hk, -⟩
    obtain rfl : h = k := Option.some.inj (hcur.symm.trans hk)
    exact hannounced causes hmem
  refine ⟨fun k hk => ?_, fun k hk => ?_, fun t ht => ?_, fun _ => husable, fun causes hcs => ?_,
    fun causes hcs => ?_, ?_⟩
  · have hne : k ≠ h := by
      rintro rfl
      exact hrun.live.ne_absent (hs.absent k (hclients ▸ hk))
    rw [hother k hne]
    exact hs.absent k (hclients ▸ hk)
  · by_cases hkh : k = h
    · rw [hkh, hptr]
      exact hcur
    · rw [hother k hkh] at hk
      rw [hptr]
      exact hs.running k hk
  · rw [hpc] at ht ⊢
    rw [hmutex]
    obtain ⟨hown, hsees⟩ := hs.holder t ht
    refine ⟨hown, ?_⟩
    -- a task that has found the client not running cannot be there
    cases hp : s.pc t <;> rw [hp] at hsees <;>
      first
      | exact husable
      | exact absurd hrun (hsees h hcur)
      | (obtain ⟨k, hk, hcreated⟩ := hsees
         obtain rfl : h = k := Option.some.inj (hcur.symm.trans hk)
         rw [hcreated] at hrun
         exact hrun.elim)
  · rcases hsig causes hcs with hmem | hold
    · exact hannounced causes hmem
    · exact hkeep causes (hs.sig causes hold)
  · rw [hbatch] at hcs
    exact hkeep causes (hs.taken causes hcs)
  · unfold State.Ok
    rw [hcalls]
    exact hs.calls

theorem inv_eventStep {h : Nat} {op : EventOp} {s s' : State} (hs : Inv s)
    (hstep : eventStep h s op = some s') : Inv s' := by
  cases op with
  | connected =>
    obtain ⟨hstarted, rfl⟩ := Option.ite_some_none_eq_some.mp hstep
    exact hs.event (h := h) (c := .notifying) (by rw [hstarted]; trivial) trivial rfl rfl rfl rfl
      rfl rfl rfl fun _ hcs => Or.inr hcs
  | notify =>
    obtain ⟨hnotifying, rfl⟩ := Option.ite_some_none_eq_some.mp hstep
    refine hs.event (h := h) (c := .started) (by rw [hnotifying]; trivial) trivial rfl rfl rfl rfl
      rfl rfl rfl fun causes hcs => Or.inl ?_
    obtain rfl := Option.some.inj hcs
    exact List.mem_cons_self
  | disconnected =>
    obtain ⟨hstarted, rfl⟩ := Option.ite_some_none_eq_some.mp hstep
    exact hs.event (h := h) (c := .started) (by rw [hstarted]; trivial) trivial rfl
      (by rw [← hstarted, Function.update_eq_self]) rfl rfl rfl rfl rfl fun _ hcs => Or.inr hcs

theorem inv_publishStep {op : PublishOp} {s s' : State} (hs : Inv s)
    (hstep : publishStep s op = some s') : Inv s' := by
  cases op with
  | takeSignals onRecvAdv =>
    obtain ⟨-, rfl⟩ := Option.ite_some_none_eq_some.mp hstep
    exact ⟨hs.absent, hs.running, hs.holder, hs.free, fun _ h => absurd h (by simp), hs.sig,
      hs.calls⟩
  | handleRecvAdv publishes =>
    obtain ⟨⟨hpc, -⟩, rfl⟩ := Option.ite_some_none_eq_some.mp hstep
    exact hs.wait (t := .advMqtt) (by rw [hpc]; exact id) (by split <;> exact id) rfl rfl rfl rfl
      rfl rfl rfl rfl
  | advPostPublish =>
    obtain ⟨hpc, rfl⟩ := Option.ite_some_none_eq_some.mp hstep
    exact hs.wait (t := .advPost) (p := .publishAdv) (by rw [hpc]; exact id) id rfl rfl rfl rfl
      rfl rfl rfl rfl
  | publishAdvLock t =>
    obtain ⟨⟨-, hfree⟩, rfl⟩ := Option.ite_some_none_eq_some.mp hstep
    exact hs.lock hfree _ (hs.free hfree)
  | publishAdv t fits =>
    obtain ⟨hpc, rfl⟩ := Option.ite_some_none_eq_some.mp hstep
    have hholds : (s.pc t).Holds := by rw [hpc]; trivial
    have husable : s.Usable := hs.sees hpc trivial
    split
    · rename_i hif
      obtain ⟨h, hptr⟩ := Option.isSome_iff_exists.mp (Bool.and_eq_true_iff.mp hif).1
      exact hs.unlock hholds rfl rfl rfl rfl rfl rfl husable
        (hs.calls.publish hptr (husable h hptr) fun _ h => nomatch h)
    · exact hs.unlock hholds rfl rfl rfl rfl rfl rfl husable hs.calls
  | publishConnectLock =>
    obtain ⟨⟨-, -, -, hfree⟩, rfl⟩ := Option.ite_some_none_eq_some.mp hstep
    exact hs.lock hfree _ (hs.free hfree)
  | publishConnect =>
    obtain ⟨hpc, hstep⟩ := Option.ite_none_right_eq_some.mp hstep
    obtain ⟨causes, hcauses, rfl⟩ := Option.map_eq_some_iff.mp hstep
    have hholds : (s.pc .advMqtt).Holds := by rw [hpc]; trivial
    have husable : s.Usable := hs.sees hpc trivial
    obtain ⟨h, hmem, hptr, hrun⟩ := hs.taken causes hcauses
    have hcalls : (s.publish (.online causes)).Ok :=
      hs.calls.publish hptr hrun.live fun causes' heq => by
        obtain rfl : causes = causes' := Message.online.inj heq
        exact hmem
    have hafter := hs.unlock (u := s.publish (.online causes)) hholds rfl rfl rfl rfl rfl rfl
      husable hcalls
    exact ⟨hafter.absent, hafter.running, hafter.holder, hafter.free, hafter.sig,
      fun _ h => absurd h (by simp [State.unlock]), hafter.calls⟩

theorem inv_step {a : Step} {s s' : State} (hs : Inv s) (hok : Handled s a)
    (hstep : step s a = some s') : Inv s' := by
  cases a with
  | caller c op => exact inv_callerStep hs hok hstep
  | event h op => exact inv_eventStep hs hstep
  | publish op => exact inv_publishStep hs hstep

/-- The invariant holds in every run that meets the condition. -/
theorem inv_of_reachableVia {s : State} (h : system.ReachableVia Handled s) : Inv s :=
  h.invariant (fun _ hinit => hinit ▸ inv_init) fun _ _ _ _ hs hok hstep => inv_step hs hok hstep

/-- **The client that is used is the one that has connected.**  As long as `mqtt_app_stop`
destroys no client whose connection is still signalled, every message goes through a client that
exists, and a message "online" through one whose connection has caused it. -/
theorem publish_ok_of_handled {s : State} (h : system.ReachableVia Handled s) : s.Ok :=
  (inv_of_reachableVia h).calls

/-- A client is started by the main task, connects, and is stopped by the HTTP server before
`adv_mqtt` has taken the signal. -/
def stoppedBeforeOnline : List Step :=
  [.caller .mainTask .start, .caller .mainTask .startInit, .caller .mainTask (.startClient true),
    .event 0 .connected, .event 0 .notify,
    .caller .httpServer .stop, .caller .httpServer .stopOffline,
    .caller .httpServer (.stopDestroy true), .caller .httpServer .stopClear]

/-- `adv_mqtt` handles the signal. -/
def handleMqttConnected : List Step :=
  [.publish (.takeSignals false), .publish .publishConnectLock, .publish .publishConnect]

/-- A run that starts a client anew. -/
def startAgain : List Step :=
  [.caller .mainTask .start, .caller .mainTask .startInit, .caller .mainTask (.startClient true)]

/-- A signal that is handled after the client has been stopped: "online" is published through
the NULL pointer, or through the next client. -/
theorem publish_of_stopped_client :
    (¬ ∀ s, system.Reachable s → ∀ c ∈ s.calls, c.client ≠ none) ∧
      ¬ ∀ s, system.Reachable s → ∀ c ∈ s.calls, ∀ causes h,
        c.message = .online causes → c.client = some h → h ∈ causes := by
  constructor
  · intro hall
    obtain ⟨s, hs, hcall⟩ := system.exists_reachable_of_run (s := State.init) rfl
      (stoppedBeforeOnline ++ handleMqttConnected)
      (fun s => decide ((⟨none, false, .online [0]⟩ : Call) ∈ s.calls)) (by decide +kernel)
    exact hall s hs _ (of_decide_eq_true hcall) rfl
  · intro hall
    obtain ⟨s, hs, hcall⟩ := system.exists_reachable_of_run (s := State.init) rfl
      (stoppedBeforeOnline ++ startAgain ++ handleMqttConnected)
      (fun s => decide ((⟨some 1, true, .online [0]⟩ : Call) ∈ s.calls)) (by decide +kernel)
    exact absurd (hall s hs _ (of_decide_eq_true hcall) [0] 1 rfl rfl) (by decide)

/-- The client is stopped after "online" has been published, and another is started. -/
theorem publish_ok_of_handled_stopped :
    ∃ s, system.ReachableVia Handled s ∧ s.calls.length = 2 ∧ s.Ok := by
  obtain ⟨s, hs, hcalls⟩ := system.exists_reachableVia_of_run (C := Handled) (s := State.init) rfl
    (stoppedBeforeOnline.take 5 ++ handleMqttConnected ++ stoppedBeforeOnline.drop 5 ++ startAgain)
    (fun s => decide (s.calls.length = 2)) (by decide +kernel)
  exact ⟨s, hs, of_decide_eq_true hcalls, publish_ok_of_handled hs⟩

end Publish
end Mqtt
end RuuviGateway
