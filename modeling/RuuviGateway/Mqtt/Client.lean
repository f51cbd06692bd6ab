import Mathlib.Data.List.Induction
import RuuviGateway.Relaying.HttpDownload

/-!
# The MQTT client and its part of the TLS buffer

`mqtt.c`: `mqtt_app_start` creates a client, for the configuration of the gateway or, in
`http_check_mqtt`, for one that is under test; `mqtt_app_stop` destroys it.  A client that uses
TLS is given the part of the TLS buffer that is kept for MQTT.  Whether to take that part is read
from the saved configuration (`gw_cfg_get_mqtt_use_mqtt_over_ssl_or_wss`), and the transport of
the client from the argument.

The calls exclude each other by the mutex of `mqtt.c`, so a run is a sequence of calls.  A call
that restarts the gateway does not return, but it unlocks the mutex before, so others can follow.
-/

namespace RuuviGateway
namespace Mqtt

open CString GwCfgJson
open Relaying (gwCfgGetMqttUseMqttOverSslOrWss)

/-! ## The state -/

/-- `esp_mqtt_transport_t`, as far as it is used. -/
inductive Transport where
  | overTcp
  | overSsl
  | overWs
  | overWss
  deriving DecidableEq, Repr

/-- The client connects through TLS. -/
def Transport.usesTls : Transport → Bool
  | .overSsl | .overWss => true
  | .overTcp | .overWs => false

/-- `esp_mqtt_client_config_t`: where the client connects to, and what it is given for TLS. -/
structure ClientConfig where
  host : Buf 256
  port : UInt16
  transport : Transport
  certPem : Bool
  clientCertPem : Bool
  clientKeyPem : Bool
  /-- `ssl_buf_cfg` has the buffers. -/
  sslBuf : Bool
  deriving DecidableEq

/-- The strings of certificates and of the key that are allocated. -/
structure Certs where
  serverCertMqtt : Bool
  clientCert : Bool
  clientKey : Bool
  deriving DecidableEq, Repr

/-- No string is allocated. -/
def Certs.null : Certs := ⟨false, false, false⟩

/-- `mqtt_error_e`, as far as it is set here. -/
inductive MqttError where
  | none
  | connect
  deriving DecidableEq, Repr

/-- `mqtt_protected_data_t`, with the mutex of the buffer and the bits of `gw_status.c` that are
set here. -/
structure State where
  /-- `p_mqtt_client`: what the client was created from. -/
  mqttClient : Option ClientConfig
  certs : Certs
  /-- `p_tls_shared_buf_mqtts` is not NULL. -/
  tlsSharedBufMqtts : Bool
  /-- `g_p_tls_shared_buf_mutex_mqtts` is locked by this component. -/
  bufLocked : Bool
  mqttError : MqttError
  mqttStarted : Bool
  deriving DecidableEq

/-- The state after the start of the gateway. -/
def State.init : State where
  mqttClient := none
  certs := .null
  tlsSharedBufMqtts := false
  bufLocked := false
  mqttError := .none
  mqttStarted := false

/-! ## Starting -/

/-- What `mqtt_app_start` finds and how its steps end. -/
structure StartEnv where
  clientCertRead : Bool
  clientKeyRead : Bool
  serverCertRead : Bool
  /-- The saved configuration. -/
  saved : GwCfgJson.Mqtt
  /-- Another task, a download, holds the mutex of the buffer. -/
  bufLockedByOther : Bool
  cfgAllocated : Bool
  clientInit : Bool
  clientStart : Bool

/-- `mqtt_transport_name_to_code`. -/
def mqttTransportNameToCode (name : Buf 8) : Transport :=
  if name.chars = "TCP".toList then .overTcp
  else if name.chars = "SSL".toList then .overSsl
  else if name.chars = "WS".toList then .overWs
  else if name.chars = "WSS".toList then .overWss
  else .overTcp

/-- `tls_shared_buf_get_mqtts`; without result if its assertion fails. -/
def tlsSharedBufGetMqtts (lockedByOther : Bool) (s : State) : Option State :=
  if s.bufLocked || lockedByOther then none
  else some { s with bufLocked := true, tlsSharedBufMqtts := true }

/-- `tls_shared_buf_unlock_mqtts`, if the pointer is not NULL. -/
def tlsSharedBufUnlockMqtts (s : State) : State :=
  if s.tlsSharedBufMqtts then { s with bufLocked := false, tlsSharedBufMqtts := false } else s

/-- `mqtt_create_client_config`, with `mqtt_generate_client_config`. -/
def mqttCreateClientConfig (cfg : GwCfgJson.Mqtt) (s : State) : ClientConfig where
  host := cfg.mqttServer
  port := cfg.mqttPort
  transport := mqttTransportNameToCode cfg.mqttTransport
  certPem := s.certs.serverCertMqtt
  clientCertPem := s.certs.clientCert
  clientKeyPem := s.certs.clientKey
  sslBuf := s.tlsSharedBufMqtts

/-- `mqtt_app_start_internal2`: whether the client runs.  A client that cannot be started is
destroyed; if that fails too, the gateway is restarted. -/
def mqttAppStartInternal2 (c : ClientConfig) (e : StartEnv) (s : State) : Bool × State :=
  if !e.clientInit then (false, { s with mqttClient := none })
  else if !e.clientStart then (false, { s with mqttClient := none })
  else (true, { s with mqttClient := some c })

/-- The end of a start that has failed. -/
def startFailed (s : State) : State :=
  { tlsSharedBufUnlockMqtts s with mqttError := .connect, certs := .null }

/-- The start of `mqtt_app_start_internal`: the status is cleared and the files are read. -/
def readCerts (cfg : GwCfgJson.Mqtt) (e : StartEnv) (s : State) : State :=
  { s with
    mqttError := .none
    certs := {
      serverCertMqtt := cfg.useSslServerCert && e.serverCertRead
      clientCert := cfg.useSslClientCert && e.clientCertRead
      clientKey := cfg.useSslClientCert && e.clientKeyRead } }

/-- `mqtt_app_start_internal`. -/
def mqttAppStartInternal (cfg : GwCfgJson.Mqtt) (e : StartEnv) (s : State) : Option State := do
  let s := readCerts cfg e s
  if cfg.mqttServer.chars = [] ∨ cfg.mqttPort = 0 then
    some { s with mqttError := .connect, certs := .null }
  else
    let s ←
      if gwCfgGetMqttUseMqttOverSslOrWss e.saved then tlsSharedBufGetMqtts e.bufLockedByOther s
      else some { s with tlsSharedBufMqtts := false }
    if !e.cfgAllocated then some (startFailed s)
    else
      let (isSuccess, s) := mqttAppStartInternal2 (mqttCreateClientConfig cfg s) e s
      if isSuccess then some { s with mqttStarted := true } else some (startFailed s)

/-- `mqtt_app_start`. -/
def mqttAppStart (cfg : GwCfgJson.Mqtt) (e : StartEnv) (s : State) : Option State :=
  if s.mqttClient.isSome then some s else mqttAppStartInternal cfg e s

/-! ## Runs -/

/-- A call from outside, with what it finds. -/
inductive Call where
  | start (cfg : GwCfgJson.Mqtt) (e : StartEnv)
  /-- `mqtt_app_start_with_gw_cfg`; `cfg` is the copy of the saved configuration, if there is
  memory for it. -/
  | startWithGwCfg (cfg : Option GwCfgJson.Mqtt) (e : StartEnv)
  /-- `mqtt_app_stop`; `destroyed` tells whether `esp_mqtt_client_destroy` succeeds. -/
  | stop (destroyed : Bool)

/-- `mqtt_app_stop`; if the client cannot be destroyed, the gateway is restarted. -/
def mqttAppStop (destroyed : Bool) (s : State) : State :=
  if s.mqttClient.isSome && !destroyed then s
  else
    let s :=
      if s.mqttClient.isSome then { tlsSharedBufUnlockMqtts s with mqttClient := none } else s
    { s with mqttError := .none, mqttStarted := false, certs := .null }

/-- A call; without result if an assertion fails. -/
def exec : Call → State → Option State
  | .start cfg e, s => mqttAppStart cfg e s
  | .startWithGwCfg none _, s => some { s with mqttError := .connect }
  | .startWithGwCfg (some cfg) e, s => mqttAppStart cfg e s
  | .stop destroyed, s => some (mqttAppStop destroyed s)

/-- A sequence of calls. -/
def execAll (calls : List Call) (s : State) : Option State := calls.foldlM (fun s c => exec c s) s

/-- The buffer is held exactly for a client that uses TLS, and certificates only for a
client. -/
structure Balanced (s : State) : Prop where
  buf : s.bufLocked = true ↔ ∃ c, s.mqttClient = some c ∧ c.transport.usesTls = true
  certs : s.mqttClient = none → s.certs = .null

/-- The start of a client gets to its end. -/
def Creates (cfg : GwCfgJson.Mqtt) (e : StartEnv) (s : State) : Prop :=
  s.mqttClient = none ∧ cfg.mqttServer.chars ≠ [] ∧ cfg.mqttPort ≠ 0 ∧
    (gwCfgGetMqttUseMqttOverSslOrWss e.saved = true → e.bufLockedByOther = false) ∧
    e.cfgAllocated = true ∧ e.clientInit = true ∧ e.clientStart = true

/-- If a client is created, the saved configuration asks for TLS exactly if that of the client
does. -/
def MatchesSaved (cfg : GwCfgJson.Mqtt) (e : StartEnv) (s : State) : Prop :=
  Creates cfg e s →
    (gwCfgGetMqttUseMqttOverSslOrWss e.saved =
      (mqttTransportNameToCode cfg.mqttTransport).usesTls)

/-- The same for a call. -/
def Call.Matches : Call → State → Prop
  | .start cfg e, s => MatchesSaved cfg e s
  | .startWithGwCfg (some cfg) e, s => MatchesSaved cfg e s
  | .startWithGwCfg none _, _ => True
  | .stop _, _ => True

/-! ## What a call does -/

/-- Nothing is held, and no client exists. -/
structure Stopped (s : State) : Prop where
  client : s.mqttClient = none
  tlsSharedBuf : s.tlsSharedBufMqtts = false
  buf : s.bufLocked = false
  certs : s.certs = .null

/-- A client exists, and the buffer is held if the client was given it. -/
structure Running (s : State) (c : ClientConfig) : Prop where
  client : s.mqttClient = some c
  tlsSharedBuf : s.tlsSharedBufMqtts = c.sslBuf
  buf : s.bufLocked = c.sslBuf

/-- What holds between calls, whatever the configurations are. -/
def Sound (s : State) : Prop := Stopped s ∨ ∃ c, Running s c

theorem Stopped.startFailed {s : State} (hclient : s.mqttClient = none)
    (hbuf : s.bufLocked = s.tlsSharedBufMqtts) : Stopped (startFailed s) := by
  unfold Mqtt.startFailed tlsSharedBufUnlockMqtts
  by_cases hheld : s.tlsSharedBufMqtts = true
  · rw [if_pos hheld]
    exact ⟨hclient, rfl, rfl, rfl⟩
  · rw [if_neg hheld]
    have hnull : s.tlsSharedBufMqtts = false := by simpa using hheld
    exact ⟨hclient, hnull, by rw [hbuf, hnull], rfl⟩

/-- The state in which the client is created: the buffer has been taken if the saved
configuration asks for it. -/
def prepared (cfg : GwCfgJson.Mqtt) (e : StartEnv) (s : State) : State :=
  { readCerts cfg e s with
    bufLocked := gwCfgGetMqttUseMqttOverSslOrWss e.saved
    tlsSharedBufMqtts := gwCfgGetMqttUseMqttOverSslOrWss e.saved }

/-- The end of `mqtt_app_start_internal`. -/
def startPrepared (cfg : GwCfgJson.Mqtt) (e : StartEnv) (s : State) : State :=
  if !e.cfgAllocated || !e.clientInit || !e.clientStart then startFailed s
  else { s with mqttClient := some (mqttCreateClientConfig cfg s), mqttStarted := true }

theorem setClient_none {s : State} (h : s.mqttClient = none) :
    { s with mqttClient := none } = s := by
  rw [← h]

/-- What follows after the buffer. -/
theorem startPrepared_eq (cfg : GwCfgJson.Mqtt) (e : StartEnv) {s : State}
    (h : s.mqttClient = none) :
    (if !e.cfgAllocated then startFailed s
      else if (mqttAppStartInternal2 (mqttCreateClientConfig cfg s) e s).1 then
        { (mqttAppStartInternal2 (mqttCreateClientConfig cfg s) e s).2 with mqttStarted := true }
      else startFailed (mqttAppStartInternal2 (mqttCreateClientConfig cfg s) e s).2) =
      startPrepared cfg e s := by
  unfold startPrepared mqttAppStartInternal2
  cases e.cfgAllocated with
  | false => rfl
  | true =>
    cases e.clientInit with
    | false =>
      show startFailed { s with mqttClient := none } = _
      rw [setClient_none h]
      rfl
    | true =>
      cases e.clientStart with
      | false =>
        show startFailed { s with mqttClient := none } = _
        rw [setClient_none h]
        rfl
      | true => rfl

/-- A start without a client: it fails for its parameters, or fails the assertion, or goes on
with the buffer that the saved configuration asks for. -/
theorem mqttAppStart_of_stopped (cfg : GwCfgJson.Mqtt) (e : StartEnv) {s : State}
    (h : Stopped s) :
    mqttAppStart cfg e s =
      if cfg.mqttServer.chars = [] ∨ cfg.mqttPort = 0 then
        some { readCerts cfg e s with mqttError := .connect, certs := .null }
      else if gwCfgGetMqttUseMqttOverSslOrWss e.saved && e.bufLockedByOther then none
      else some (startPrepared cfg e (prepared cfg e s)) := by
  have hnone : (prepared cfg e s).mqttClient = none := h.client
  have hstart : mqttAppStart cfg e s = mqttAppStartInternal cfg e s := by
    unfold mqttAppStart
    rw [h.client]
    rfl
  rw [hstart, ← startPrepared_eq cfg e hnone]
  unfold mqttAppStartInternal
  by_cases hinvalid : cfg.mqttServer.chars = [] ∨ cfg.mqttPort = 0
  · rw [if_pos hinvalid, if_pos hinvalid]
  · rw [if_neg hinvalid, if_neg hinvalid]
    have hbuf : (readCerts cfg e s).bufLocked = false := h.buf
    cases hsaved : gwCfgGetMqttUseMqttOverSslOrWss e.saved with
    | false =>
      have hprepared : { readCerts cfg e s with tlsSharedBufMqtts := false } =
          prepared cfg e s := by
        unfold prepared
        rw [hsaved, ← hbuf]
      simp only [Bool.false_eq_true, if_false, Bool.false_and, hprepared]
      show (if _ then _ else _) = _
      split
      · rfl
      · split <;> rfl
    | true =>
      have hprepared : { readCerts cfg e s with bufLocked := true, tlsSharedBufMqtts := true } =
          prepared cfg e s := by
        unfold prepared
        rw [hsaved]
      cases hother : e.bufLockedByOther with
      | true =>
        simp only [if_true, tlsSharedBufGetMqtts, Bool.or_true, Bool.and_true]
        rfl
      | false =>
        simp only [if_true, tlsSharedBufGetMqtts, hbuf, Bool.or_false, Bool.and_false,
          Bool.false_eq_true, if_false, hprepared]
        show (if _ then _ else _) = _
        split
        · rfl
        · split <;> rfl

/-- A start without a client: it is aborted, or leaves no client, or creates one that is given
the buffer if the saved configuration asks for TLS. -/
theorem start_cases (cfg : GwCfgJson.Mqtt) (e : StartEnv) {s : State} (h : Stopped s) :
    (¬Creates cfg e s ∧ mqttAppStart cfg e s = none) ∨
      (¬Creates cfg e s ∧ ∃ s', mqttAppStart cfg e s = some s' ∧ Stopped s') ∨
      (Creates cfg e s ∧ ∃ s' c, mqttAppStart cfg e s = some s' ∧ Running s' c ∧
        c.transport = mqttTransportNameToCode cfg.mqttTransport ∧
        c.sslBuf = gwCfgGetMqttUseMqttOverSslOrWss e.saved) := by
  rw [mqttAppStart_of_stopped cfg e h]
  by_cases hinvalid : cfg.mqttServer.chars = [] ∨ cfg.mqttPort = 0
  · rw [if_pos hinvalid]
    refine .inr (.inl ⟨fun hc => ?_, _, rfl, h.client, h.tlsSharedBuf, h.buf, rfl⟩)
    exact hinvalid.elim hc.2.1 hc.2.2.1
  · rw [if_neg hinvalid]
    by_cases hother : (gwCfgGetMqttUseMqttOverSslOrWss e.saved && e.bufLockedByOther) = true
    · rw [if_pos hother]
      rw [Bool.and_eq_true] at hother
      refine .inl ⟨fun hc => ?_, rfl⟩
      rw [hc.2.2.2.1 hother.1] at hother
      exact absurd hother.2 (by simp)
    · rw [if_neg hother]
      by_cases hfails : (!e.cfgAllocated || !e.clientInit || !e.clientStart) = true
      · refine .inr (.inl ⟨fun hc => ?_, _, rfl, ?_⟩)
        · obtain ⟨-, -, -, -, hcfg, hinit, hstart⟩ := hc
          rw [hcfg, hinit, hstart] at hfails
          exact absurd hfails (by simp)
        · rw [startPrepared, if_pos hfails]
          exact Stopped.startFailed h.client rfl
      · refine .inr (.inr ⟨?_, _, mqttCreateClientConfig cfg (prepared cfg e s), rfl, ?_, rfl,
          rfl⟩)
        · rw [not_or] at hinvalid
          refine ⟨h.client, hinvalid.1, hinvalid.2, fun hsaved => ?_, ?_, ?_, ?_⟩
          · simpa [hsaved] using hother
          all_goals simp at hfails; simp [hfails]
        · rw [startPrepared, if_neg hfails]
          exact ⟨rfl, rfl, rfl⟩

/-- Stopping leaves nothing, unless the client cannot be destroyed. -/
theorem stop_cases (destroyed : Bool) {s : State} (h : Sound s) :
    mqttAppStop destroyed s = s ∨ Stopped (mqttAppStop destroyed s) := by
  rcases h with h | ⟨c, h⟩
  · refine .inr ?_
    unfold mqttAppStop
    simp only [h.client, Option.isSome_none, Bool.false_and, Bool.false_eq_true, if_false]
    exact ⟨rfl, h.tlsSharedBuf, h.buf, rfl⟩
  · unfold mqttAppStop
    cases destroyed with
    | false =>
      refine .inl ?_
      simp [h.client]
    | true =>
      refine .inr ?_
      simp only [h.client, Option.isSome_some, Bool.not_true, Bool.and_false, Bool.false_eq_true,
        if_false, if_true]
      unfold tlsSharedBufUnlockMqtts
      by_cases hheld : s.tlsSharedBufMqtts = true
      · rw [if_pos hheld]
        exact ⟨rfl, rfl, rfl, rfl⟩
      · rw [if_neg hheld]
        have hnull : s.tlsSharedBufMqtts = false := by simpa using hheld
        exact ⟨rfl, hnull, by rw [h.buf, ← h.tlsSharedBuf, hnull], rfl⟩

/-! ## One call -/

theorem Stopped.balanced {s : State} (h : Stopped s) : Balanced s where
  buf := by simp [h.buf, h.client]
  certs _ := h.certs

theorem Running.balanced_iff {s : State} {c : ClientConfig} (h : Running s c) :
    Balanced s ↔ c.sslBuf = c.transport.usesTls := by
  constructor
  · intro hb
    have hbuf := hb.buf
    rw [h.buf, h.client] at hbuf
    rw [Bool.eq_iff_iff, hbuf]
    simp
  · intro heq
    refine ⟨?_, fun hnone => ?_⟩
    · rw [h.buf, h.client, heq]
      simp
    · rw [h.client] at hnone
      exact absurd hnone (by simp)

/-- A start that is aborted, or finds a client, satisfies the condition. -/
theorem matchesSaved_of_not_creates {cfg : GwCfgJson.Mqtt} {e : StartEnv} {s : State}
    (h : ¬Creates cfg e s) : MatchesSaved cfg e s := fun hc => absurd hc h

theorem start_none {cfg : GwCfgJson.Mqtt} {e : StartEnv} {s : State} (hs : Sound s)
    (hrun : mqttAppStart cfg e s = none) : MatchesSaved cfg e s := by
  rcases hs with hs | ⟨c, hs⟩
  · rcases start_cases cfg e hs with ⟨hnot, -⟩ | ⟨hnot, -⟩ | ⟨-, s', c, hsome, -⟩
    · exact matchesSaved_of_not_creates hnot
    · exact matchesSaved_of_not_creates hnot
    · rw [hsome] at hrun
      exact absurd hrun (by simp)
  · refine matchesSaved_of_not_creates fun hc => ?_
    have hnone := hc.1
    rw [hs.client] at hnone
    exact absurd hnone (by simp)

theorem start_some {cfg : GwCfgJson.Mqtt} {e : StartEnv} {s s' : State} (hs : Sound s)
    (hb : Balanced s) (hrun : mqttAppStart cfg e s = some s') :
    Sound s' ∧ (Balanced s' ↔ MatchesSaved cfg e s) := by
  rcases hs with hs | ⟨c, hs⟩
  · rcases start_cases cfg e hs with ⟨-, hnone⟩ | ⟨hnot, t, hsome, ht⟩ |
      ⟨hc, t, c, hsome, ht, htransport, hbuf⟩
    · rw [hnone] at hrun
      exact absurd hrun (by simp)
    · rw [hsome, Option.some.injEq] at hrun
      subst hrun
      exact ⟨.inl ht, iff_of_true ht.balanced (matchesSaved_of_not_creates hnot)⟩
    · rw [hsome, Option.some.injEq] at hrun
      subst hrun
      refine ⟨.inr ⟨c, ht⟩, ?_⟩
      rw [ht.balanced_iff, hbuf, htransport]
      exact ⟨fun h _ => h, fun h => h hc⟩
  · have hsame : s' = s := by
      unfold mqttAppStart at hrun
      rw [if_pos (by rw [hs.client]; rfl), Option.some.injEq] at hrun
      exact hrun.symm
    rw [hsame]
    refine ⟨.inr ⟨c, hs⟩, iff_of_true hb (matchesSaved_of_not_creates fun hc => ?_)⟩
    have hnone := hc.1
    rw [hs.client] at hnone
    exact absurd hnone (by simp)

/-- What a call leaves: the invariant, and the balance exactly if the configurations match. -/
theorem exec_some {c : Call} {s s' : State} (hs : Sound s) (hb : Balanced s)
    (hrun : exec c s = some s') : Sound s' ∧ (Balanced s' ↔ c.Matches s) := by
  cases c with
  | start cfg e => exact start_some hs hb hrun
  | startWithGwCfg cfg e =>
    cases cfg with
    | some cfg => exact start_some hs hb hrun
    | none =>
      injection hrun with hrun
      rw [← hrun]
      refine ⟨?_, iff_of_true ⟨hb.buf, hb.certs⟩ trivial⟩
      rcases hs with hs | ⟨c, hs⟩
      · exact .inl ⟨hs.client, hs.tlsSharedBuf, hs.buf, hs.certs⟩
      · exact .inr ⟨c, hs.client, hs.tlsSharedBuf, hs.buf⟩
  | stop destroyed =>
    injection hrun with hrun
    rw [← hrun]
    rcases stop_cases destroyed hs with h | h
    · rw [h]
      exact ⟨hs, iff_of_true hb trivial⟩
    · exact ⟨.inl h, iff_of_true h.balanced trivial⟩

theorem exec_none {c : Call} {s : State} (hs : Sound s) (hrun : exec c s = none) :
    c.Matches s := by
  cases c with
  | start cfg e => exact start_none hs hrun
  | startWithGwCfg cfg e =>
    cases cfg with
    | some cfg => exact start_none hs hrun
    | none => trivial
  | stop destroyed => trivial

/-! ## Runs of calls -/

theorem execAll_snoc (calls : List Call) (c : Call) (s : State) :
    execAll (calls ++ [c]) s = (execAll calls s).bind (exec c) := by
  simp only [execAll, List.foldlM_append, List.foldlM_cons, List.foldlM_nil]
  cases List.foldlM (fun s c => exec c s) s calls with
  | none => rfl
  | some t => exact bind_pure (exec c t)

theorem sound_init : Sound .init := .inl ⟨rfl, rfl, rfl, rfl⟩

theorem balanced_init : Balanced .init := Stopped.balanced ⟨rfl, rfl, rfl, rfl⟩

/-- A run whose calls all match leaves the invariant and the balance. -/
theorem balanced_of_matches {calls : List Call}
    (h : ∀ done c rest s, calls = done ++ c :: rest → execAll done .init = some s → c.Matches s)
    {s : State} (hrun : execAll calls .init = some s) : Sound s ∧ Balanced s := by
  induction calls using List.reverseRecOn generalizing s with
  | nil =>
    injection hrun with hrun
    rw [← hrun]
    exact ⟨sound_init, balanced_init⟩
  | append_singleton done c ih =>
    rw [execAll_snoc] at hrun
    obtain ⟨t, hdone, hrun⟩ := Option.bind_eq_some_iff.mp hrun
    obtain ⟨hsound, hbalanced⟩ := ih
      (fun done' c' rest s hsplit => h done' c' (rest ++ [c]) s (by rw [hsplit]; simp)) hdone
    obtain ⟨hsound', hiff⟩ := exec_some hsound hbalanced hrun
    exact ⟨hsound', hiff.mpr (h done c [] t rfl hdone)⟩

/-- A run with the balance between its calls leaves the invariant. -/
theorem sound_of_balanced {calls : List Call}
    (h : ∀ done rest s, calls = done ++ rest → execAll done .init = some s → Balanced s)
    {s : State} (hrun : execAll calls .init = some s) : Sound s := by
  induction calls using List.reverseRecOn generalizing s with
  | nil =>
    injection hrun with hrun
    rw [← hrun]
    exact sound_init
  | append_singleton done c ih =>
    rw [execAll_snoc] at hrun
    obtain ⟨t, hdone, hrun⟩ := Option.bind_eq_some_iff.mp hrun
    have hsound := ih
      (fun done' rest s hsplit => h done' (rest ++ [c]) s (by rw [hsplit]; simp)) hdone
    exact (exec_some hsound (h done [c] t rfl hdone) hrun).1

/-- **The client and its resources.**  In a sequence of calls the balance holds between any two
calls if and only if each client is created while the saved configuration asks for TLS exactly if
that of the client does. -/
theorem balanced_execAll_iff (calls : List Call) :
    (∀ done rest s, calls = done ++ rest → execAll done .init = some s → Balanced s) ↔
      ∀ done c rest s, calls = done ++ c :: rest → execAll done .init = some s →
        c.Matches s := by
  constructor
  · intro h done c rest s hsplit hrun
    have hsound : Sound s := sound_of_balanced
      (fun done' rest' t hsplit' => h done' (rest' ++ c :: rest) t (by rw [hsplit, hsplit']; simp))
      hrun
    have hbalanced : Balanced s := h done (c :: rest) s hsplit hrun
    cases hexec : exec c s with
    | none => exact exec_none hsound hexec
    | some s' =>
      refine (exec_some hsound hbalanced hexec).2.mp (h (done ++ [c]) rest s' ?_ ?_)
      · rw [hsplit]
        simp
      · rw [execAll_snoc, hrun]
        exact hexec
  · intro h done rest s hsplit hrun
    refine (balanced_of_matches (fun done' c rest' t hsplit' ht => ?_) hrun).2
    exact h done' c (rest' ++ rest) t (by rw [hsplit, hsplit']; simp) ht

/-! ## A configuration under test -/

open Relaying (mqttVia)

/-- A start without failures, over the given saved configuration. -/
def startOver (saved : GwCfgJson.Mqtt) : StartEnv where
  clientCertRead := true
  clientKeyRead := true
  serverCertRead := true
  saved := saved
  bufLockedByOther := false
  cfgAllocated := true
  clientInit := true
  clientStart := true

/-- A client that is tested with SSL, while TCP is saved, runs without the buffer; one that is
tested with TCP, while SSL is saved, holds it. -/
theorem test_unbalanced :
    (∃ s, execAll [.start (mqttVia "SSL") (startOver (mqttVia "TCP"))] .init = some s ∧
        s.bufLocked = false ∧ (s.mqttClient.map fun c => c.transport) = some .overSsl ∧
        ¬Balanced s) ∧
      ∃ s, execAll [.start (mqttVia "TCP") (startOver (mqttVia "SSL"))] .init = some s ∧
        s.bufLocked = true ∧ (s.mqttClient.map fun c => c.transport) = some .overTcp ∧
        ¬Balanced s := by
  refine ⟨⟨_, rfl, rfl, rfl, fun h => ?_⟩, _, rfl, rfl, rfl, fun h => ?_⟩
  · have hheld := h.buf.mpr ⟨_, rfl, rfl⟩
    exact absurd hheld (by decide)
  · obtain ⟨c, hclient, htls⟩ := h.buf.mp rfl
    injection hclient with hclient
    rw [← hclient] at htls
    exact absurd htls (by decide)

end Mqtt
end RuuviGateway
