import RuuviGateway.GwCfgJson.Config
import RuuviGateway.Relaying.Model

/-!
# Relaying during a download

`http_download.c`: a download needs the TLS buffer that relaying uses otherwise, so it suspends
relaying first and resumes it at its end.  The small buffer is shared with relaying via HTTP
only; the big one with the MQTT client too, if that client uses TLS.  Whether it does is read
from the saved configuration, once to choose how to suspend, once in an assertion, and once to
choose how to resume.

A call is a function of what it finds each time it looks at something shared, and of how its
steps end (`DownloadEnv`): the configuration, and the counters of `gw_status.c` as they would be
without the call.  All that other tasks do during the call is in these.  The result has what the
call has added to the two counters; the waiting for the relaying commands is part of
`Relaying.Handshake`.
-/

namespace RuuviGateway
namespace Relaying

open CString GwCfgJson

/-! ## The counters -/

/-- What a call has added to `cnt_relaying_via_http_suspended` and to
`cnt_relaying_via_mqtt_suspended`. -/
@[ext] structure Net where
  http : Int
  mqtt : Int
  deriving DecidableEq, Repr

/-- Nothing is added. -/
def Net.zero : Net := ⟨0, 0⟩

/-- The contributions of two parts of a call. -/
def Net.add (a b : Net) : Net := ⟨a.http + b.http, a.mqtt + b.mqtt⟩

/-- The counters that a call sees: those that other tasks have left it, with its own
contribution. -/
def GwStatus.withNet (others : GwStatus) (n : Net) : GwStatus :=
  { others with
    cntRelayingViaHttpSuspended := (others.cntRelayingViaHttpSuspended + n.http).toNat
    cntRelayingViaMqttSuspended := (others.cntRelayingViaMqttSuspended + n.mqtt).toNat }

/-- The contribution after the counters have been changed from `g` to `g'`. -/
def Net.changed (n : Net) (g g' : GwStatus) : Net where
  http := n.http + (g'.cntRelayingViaHttpSuspended - g.cntRelayingViaHttpSuspended)
  mqtt := n.mqtt + (g'.cntRelayingViaMqttSuspended - g.cntRelayingViaMqttSuspended)

/-- The effect of `gw_status_suspend_relaying` or `gw_status_suspend_http_relaying` on the
contribution. -/
def Net.suspend (kind : Kind) (others : GwStatus) (n : Net) : Net :=
  n.changed (others.withNet n) (Relaying.suspend kind true (others.withNet n)).2

/-- The effect of `gw_status_resume_relaying` or `gw_status_resume_http_relaying` on the
contribution. -/
def Net.resume (kind : Kind) (others : GwStatus) (n : Net) : Net :=
  n.changed (others.withNet n) (Relaying.resume kind true (others.withNet n)).2

/-! ## The request -/

/-- `http_resp_code_e`. -/
abbrev HttpRespCode := Nat

/-- `http_download_param_with_auth_t`, as far as it is looked at before the request is made. -/
structure DownloadParam where
  url : String
  rangeStart : Nat
  rangeEnd : Nat
  authType : HttpAuthType
  /-- `p_http_auth` is not NULL. -/
  httpAuth : Bool

/-- `http_download_check_if_range_used`. -/
def httpDownloadCheckIfRangeUsed (rangeStart rangeEnd : Nat) : Bool :=
  if rangeStart = 0 ∧ rangeEnd = 0 then true
  else !(decide (4294967295 < rangeStart) || decide (4294967295 < rangeEnd) ||
    (decide (rangeEnd ≠ 0) && decide (rangeEnd < rangeStart)))

/-- The check of the host in `http_download_is_url_valid`; the constant is
`HTTP_MIN_DOMAIN_NAME_LEN`. -/
def isHostValid (host : List Char) : Bool :=
  decide (3 ≤ host.length) && host.contains '.'

/-- `http_download_is_url_valid`. -/
def httpDownloadIsUrlValid (url : String) : Bool :=
  match url.toList.dropPrefix? "http://".toList with
  | some host => isHostValid host
  | none =>
      match url.toList.dropPrefix? "https://".toList with
      | some host => isHostValid host
      | none => false

/-- `gw_cfg_get_mqtt_use_mqtt_over_ssl_or_wss`, for the saved configuration. -/
def gwCfgGetMqttUseMqttOverSslOrWss (c : Mqtt) : Bool :=
  if !c.useMqtt then false
  else if c.mqttTransport.chars = "SSL".toList then true
  else if c.mqttTransport.chars = "WSS".toList then true
  else false

/-! ## The call -/

/-- An assertion of a call that fails. -/
inductive Abort where
  /-- In `http_download_get_tls_shared_buf_info`: relaying is enabled. -/
  | relayingEnabled
  /-- In `tls_shared_buf.c`: the buffer is in use. -/
  | tlsSharedBuf
  /-- In `http_download_or_check_stage_1`: the semaphore is taken. -/
  | asyncSema
  deriving DecidableEq, Repr

/-- How the steps of a request end. -/
structure RequestEnv where
  /-- `gw_status_is_network_connected`. -/
  networkConnected : Bool
  /-- The mutexes of the TLS buffer can be locked. -/
  tlsBufFree : Bool
  /-- The semaphore of asynchronous requests can be taken. -/
  asyncSemaFree : Bool
  cbInfo : Bool
  httpConfig : Bool
  clientInit : Bool
  setRangeHeader : Bool
  /-- The response of `http_download_by_handle`. -/
  resp : HttpRespCode

/-- What a call finds and how its steps end. -/
structure DownloadEnv where
  mqttAtSuspend : Mqtt
  suspend : GwStatus
  isHttpEnabled : GwStatus
  isMqttEnabled : GwStatus
  mqttAtCheck : Mqtt
  request : RequestEnv
  mqttAtResume : Mqtt
  resume : GwStatus

/-- `http_download_or_check_stage_4`, with `http_download_or_check_stage_5`. -/
def httpDownloadOrCheckStage4 (p : DownloadParam) (e : RequestEnv) : HttpRespCode :=
  if !e.clientInit then 500
  else if !(decide (p.rangeStart = 0 ∧ p.rangeEnd = 0) || e.setRangeHeader) then 500
  else e.resp

/-- `http_download_or_check_stage_3`. -/
def httpDownloadOrCheckStage3 (p : DownloadParam) (e : RequestEnv) : HttpRespCode :=
  if !e.httpConfig then 500 else httpDownloadOrCheckStage4 p e

/-- `http_download_or_check_stage_2`. -/
def httpDownloadOrCheckStage2 (p : DownloadParam) (e : RequestEnv) : HttpRespCode :=
  if !e.cbInfo then 500 else httpDownloadOrCheckStage3 p e

/-- `http_download_or_check_stage_1`. -/
def httpDownloadOrCheckStage1 (p : DownloadParam) (e : RequestEnv) : Except Abort HttpRespCode :=
  if !e.asyncSemaFree then .error .asyncSema else .ok (httpDownloadOrCheckStage2 p e)

/-- `http_download_get_tls_shared_buf_info`. -/
def httpDownloadGetTlsSharedBufInfo (flagUseBigTlsBuf : Bool) (e : DownloadEnv) (n : Net) :
    Except Abort Unit :=
  if flagUseBigTlsBuf then
    if (e.isHttpEnabled.withNet n).isRelayingViaHttpEnabled ||
        ((e.isMqttEnabled.withNet n).isRelayingViaMqttEnabled &&
          gwCfgGetMqttUseMqttOverSslOrWss e.mqttAtCheck) then .error .relayingEnabled
    else if e.request.tlsBufFree then .ok () else .error .tlsSharedBuf
  else
    if (e.isHttpEnabled.withNet n).isRelayingViaHttpEnabled then .error .relayingEnabled
    else if e.request.tlsBufFree then .ok () else .error .tlsSharedBuf

/-- The checks of `http_download_or_check` before relaying is suspended: the response if one
fails. -/
def downloadChecks (p : DownloadParam) (e : RequestEnv) : Option HttpRespCode :=
  if !httpDownloadCheckIfRangeUsed p.rangeStart p.rangeEnd then some 400
  else if !httpDownloadIsUrlValid p.url then some 400
  else if decide (p.authType ≠ .none) && !p.httpAuth then some 400
  else if !e.networkConnected then some 503
  else none

/-- Whether relaying via MQTT is suspended and resumed too. -/
def relayingKind (flagUseBigTlsBuf : Bool) (c : Mqtt) : Kind :=
  if flagUseBigTlsBuf && gwCfgGetMqttUseMqttOverSslOrWss c then .relaying else .httpRelaying

/-- `http_download_or_check`. -/
def httpDownloadOrCheck (p : DownloadParam) (flagUseBigTlsBuf : Bool) (e : DownloadEnv) :
    Except Abort (HttpRespCode × Net) :=
  match downloadChecks p e.request with
  | some code => .ok (code, .zero)
  | none => do
      let n := Net.zero.suspend (relayingKind flagUseBigTlsBuf e.mqttAtSuspend) e.suspend
      httpDownloadGetTlsSharedBufInfo flagUseBigTlsBuf e n
      let resp ← httpDownloadOrCheckStage1 p e.request
      .ok (resp, n.resume (relayingKind flagUseBigTlsBuf e.mqttAtResume) e.resume)

/-- What `http_download` returns. -/
structure DownloadResult where
  isSuccess : Bool
  flagAllowRetry : Bool
  net : Net

/-- `http_download`: it uses the big buffer. -/
def httpDownload (p : DownloadParam) (e : DownloadEnv) : Except Abort DownloadResult := do
  let (code, net) ← httpDownloadOrCheck p true e
  let isRangeUsed := decide (p.rangeStart ≠ 0) || decide (p.rangeEnd ≠ 0)
  .ok {
    isSuccess := decide (code = 200) || (isRangeUsed && decide (code = 206))
    flagAllowRetry := decide (code = 502)
    net }

/-- `http_check`, with `http_check_with_auth`: it uses the small buffer. -/
def httpCheck (p : DownloadParam) (e : DownloadEnv) : Except Abort (HttpRespCode × Net) :=
  httpDownloadOrCheck p false e

/-! ## What suspending and resuming add -/

theorem Net.suspend_eq (kind : Kind) (others : GwStatus) (n : Net) :
    n.suspend kind others = ⟨n.http + 1, if kind.mqtt then n.mqtt + 1 else n.mqtt⟩ := by
  ext
  · simp only [Net.suspend, Net.changed, Relaying.suspend]
    omega
  · simp only [Net.suspend, Net.changed, Relaying.suspend]
    split <;> omega

/-- Resuming takes back what was added, and otherwise what another task has added, if one
has. -/
theorem Net.resume_eq (kind : Kind) (others : GwStatus) (n : Net)
    (h : 0 < others.cntRelayingViaHttpSuspended + n.http) :
    n.resume kind others = ⟨n.http - 1,
      if kind.mqtt = true ∧ 0 < others.cntRelayingViaMqttSuspended + n.mqtt then n.mqtt - 1
      else n.mqtt⟩ := by
  ext
  · simp only [Net.resume, Net.changed, Relaying.resume, GwStatus.withNet]
    omega
  · simp only [Net.resume, Net.changed, Relaying.resume, GwStatus.withNet]
    cases kind.mqtt with
    | false => simp
    | true =>
      simp only [if_true, true_and]
      split <;> omega

/-- A resume takes back exactly what the suspend has added if it is of the same kind, or if
the counter that it decreases besides is 0. -/
theorem Net.resume_suspend_eq_zero_iff (kind kind' : Kind) (others others' : GwStatus) :
    (Net.zero.suspend kind others).resume kind' others' = Net.zero ↔
      kind'.mqtt = kind.mqtt ∨
        kind.mqtt = false ∧ others'.cntRelayingViaMqttSuspended = 0 := by
  have hpos : 0 < (others'.cntRelayingViaHttpSuspended : Int) +
      (Net.zero.suspend kind others).http := by
    rw [Net.suspend_eq]
    simp only [Net.zero]
    omega
  rw [Net.resume_eq kind' others' _ hpos, Net.suspend_eq]
  cases kind <;> cases kind' <;> simp [Net.zero, Kind.mqtt]

/-- While the call has suspended relaying, relaying via HTTP is disabled. -/
theorem isRelayingViaHttpEnabled_suspend (kind : Kind) (others g : GwStatus) :
    (g.withNet (Net.zero.suspend kind others)).isRelayingViaHttpEnabled = false := by
  rw [Net.suspend_eq]
  simp only [GwStatus.isRelayingViaHttpEnabled, GwStatus.withNet, Net.zero, beq_eq_false_iff_ne]
  omega

/-- Relaying via MQTT is enabled if neither the call nor another task has suspended it. -/
theorem isRelayingViaMqttEnabled_suspend (kind : Kind) (others g : GwStatus) :
    (g.withNet (Net.zero.suspend kind others)).isRelayingViaMqttEnabled =
      (!kind.mqtt && g.cntRelayingViaMqttSuspended == 0) := by
  rw [Net.suspend_eq]
  cases kind with
  | relaying =>
    show ((g.cntRelayingViaMqttSuspended + (0 + 1) : Int).toNat == 0) = false
    rw [beq_eq_false_iff_ne]
    omega
  | httpRelaying => simp [GwStatus.isRelayingViaMqttEnabled, GwStatus.withNet, Net.zero, Kind.mqtt]

/-! ## What a call does -/

@[simp] theorem relayingKind_mqtt (big : Bool) (c : Mqtt) :
    (relayingKind big c).mqtt = (big && gwCfgGetMqttUseMqttOverSslOrWss c) := by
  unfold relayingKind
  cases big && gwCfgGetMqttUseMqttOverSslOrWss c <;> rfl

/-- The assertion about relaying fails: the client did not use TLS when the call suspended
relaying, it does now, and it is running. -/
def assertionFails (e : DownloadEnv) : Bool :=
  !gwCfgGetMqttUseMqttOverSslOrWss e.mqttAtSuspend &&
    gwCfgGetMqttUseMqttOverSslOrWss e.mqttAtCheck &&
    e.isMqttEnabled.cntRelayingViaMqttSuspended == 0

theorem getTlsSharedBufInfo_eq (big : Bool) (e : DownloadEnv) :
    httpDownloadGetTlsSharedBufInfo big e
        (Net.zero.suspend (relayingKind big e.mqttAtSuspend) e.suspend) =
      if big && assertionFails e then .error .relayingEnabled
      else if e.request.tlsBufFree then .ok () else .error .tlsSharedBuf := by
  simp only [httpDownloadGetTlsSharedBufInfo, isRelayingViaHttpEnabled_suspend,
    isRelayingViaMqttEnabled_suspend, relayingKind_mqtt, assertionFails]
  cases big with
  | false => simp
  | true =>
    simp only [Bool.true_and, if_true, Bool.false_or]
    cases gwCfgGetMqttUseMqttOverSslOrWss e.mqttAtSuspend <;>
      cases gwCfgGetMqttUseMqttOverSslOrWss e.mqttAtCheck <;> simp

/-- The contribution of a call that gets to its end. -/
def finalNet (big : Bool) (e : DownloadEnv) : Net :=
  (Net.zero.suspend (relayingKind big e.mqttAtSuspend) e.suspend).resume
    (relayingKind big e.mqttAtResume) e.resume

/-- A call whose checks succeed. -/
theorem httpDownloadOrCheck_of_none {p : DownloadParam} {e : DownloadEnv} (big : Bool)
    (h : downloadChecks p e.request = none) :
    httpDownloadOrCheck p big e =
      if big && assertionFails e then .error .relayingEnabled
      else if !e.request.tlsBufFree then .error .tlsSharedBuf
      else if !e.request.asyncSemaFree then .error .asyncSema
      else .ok (httpDownloadOrCheckStage2 p e.request, finalNet big e) := by
  simp only [httpDownloadOrCheck, h, getTlsSharedBufInfo_eq, httpDownloadOrCheckStage1]
  by_cases ha : (big && assertionFails e) = true
  · rw [if_pos ha, if_pos ha]
    rfl
  · rw [if_neg ha, if_neg ha]
    cases e.request.tlsBufFree with
    | false => rfl
    | true => cases e.request.asyncSemaFree <;> rfl

theorem httpDownloadOrCheck_of_some {p : DownloadParam} {e : DownloadEnv} (big : Bool)
    {code : HttpRespCode} (h : downloadChecks p e.request = some code) :
    httpDownloadOrCheck p big e = .ok (code, .zero) := by
  simp only [httpDownloadOrCheck, h]

/-! ## The balance -/

/-- The assertion about relaying holds, and a call that returns has changed no counter. -/
structure Balanced (r : Except Abort Net) : Prop where
  asserted : r ≠ .error .relayingEnabled
  net : ∀ n, r = .ok n → n = .zero

/-- The configuration has not changed under a call in a way that it notices. -/
structure ConfigKept (e : DownloadEnv) : Prop where
  check : gwCfgGetMqttUseMqttOverSslOrWss e.mqttAtSuspend = false →
    gwCfgGetMqttUseMqttOverSslOrWss e.mqttAtCheck = true →
    e.isMqttEnabled.cntRelayingViaMqttSuspended ≠ 0
  resume : e.request.tlsBufFree = true → e.request.asyncSemaFree = true →
    gwCfgGetMqttUseMqttOverSslOrWss e.mqttAtResume =
        gwCfgGetMqttUseMqttOverSslOrWss e.mqttAtSuspend ∨
      gwCfgGetMqttUseMqttOverSslOrWss e.mqttAtSuspend = false ∧
        e.resume.cntRelayingViaMqttSuspended = 0

theorem assertionFails_eq_false_iff (e : DownloadEnv) :
    assertionFails e = false ↔
      (gwCfgGetMqttUseMqttOverSslOrWss e.mqttAtSuspend = false →
        gwCfgGetMqttUseMqttOverSslOrWss e.mqttAtCheck = true →
        e.isMqttEnabled.cntRelayingViaMqttSuspended ≠ 0) := by
  unfold assertionFails
  cases gwCfgGetMqttUseMqttOverSslOrWss e.mqttAtSuspend <;>
    cases gwCfgGetMqttUseMqttOverSslOrWss e.mqttAtCheck <;> simp

theorem finalNet_false (e : DownloadEnv) : finalNet false e = .zero := by
  unfold finalNet
  rw [Net.resume_suspend_eq_zero_iff]
  exact .inl (by simp)

theorem finalNet_true_iff (e : DownloadEnv) :
    finalNet true e = .zero ↔
      gwCfgGetMqttUseMqttOverSslOrWss e.mqttAtResume =
          gwCfgGetMqttUseMqttOverSslOrWss e.mqttAtSuspend ∨
        gwCfgGetMqttUseMqttOverSslOrWss e.mqttAtSuspend = false ∧
          e.resume.cntRelayingViaMqttSuspended = 0 := by
  unfold finalNet
  rw [Net.resume_suspend_eq_zero_iff]
  simp

@[simp] theorem balanced_error_iff (a : Abort) :
    Balanced (.error a) ↔ a ≠ .relayingEnabled := by
  constructor
  · intro h ha
    exact h.asserted (by rw [ha])
  · intro h
    exact ⟨fun he => h (by injection he), fun n hn => by cases hn⟩

@[simp] theorem balanced_ok_iff (n : Net) : Balanced (.ok n) ↔ n = .zero := by
  constructor
  · intro h
    exact h.net n rfl
  · intro h
    exact ⟨by simp, fun m hm => by injection hm with hm; rw [← hm, h]⟩

/-- A call with the small buffer is balanced. -/
theorem balanced_small (p : DownloadParam) (e : DownloadEnv) :
    Balanced ((httpDownloadOrCheck p false e).map Prod.snd) := by
  cases h : downloadChecks p e.request with
  | some code =>
    rw [httpDownloadOrCheck_of_some false h]
    simp [Except.map]
  | none =>
    rw [httpDownloadOrCheck_of_none false h, finalNet_false]
    cases e.request.tlsBufFree <;> cases e.request.asyncSemaFree <;> simp [Except.map]

/-- A call with the big buffer is balanced if and only if it does not get to the suspend, or
sees the same configuration all along. -/
theorem balanced_big_iff (p : DownloadParam) (e : DownloadEnv) :
    Balanced ((httpDownloadOrCheck p true e).map Prod.snd) ↔
      (downloadChecks p e.request = none → ConfigKept e) := by
  cases h : downloadChecks p e.request with
  | some code =>
    rw [httpDownloadOrCheck_of_some true h]
    simp [Except.map]
  | none =>
    rw [httpDownloadOrCheck_of_none true h]
    cases ha : assertionFails e with
    | true =>
      have hnot : ¬ConfigKept e := fun hk => by
        rw [(assertionFails_eq_false_iff e).mpr hk.check] at ha
        exact absurd ha (by simp)
      simp [Except.map, hnot]
    | false =>
      have hcheck := (assertionFails_eq_false_iff e).mp ha
      have hfinal := finalNet_true_iff e
      cases hb : e.request.tlsBufFree with
      | false => simpa [Except.map] using (⟨hcheck, by simp [hb]⟩ : ConfigKept e)
      | true =>
        cases hs : e.request.asyncSemaFree with
        | false => simpa [Except.map] using (⟨hcheck, by simp [hs]⟩ : ConfigKept e)
        | true =>
          simp only [Except.map, balanced_ok_iff, Bool.true_and, Bool.not_true, if_false,
            Bool.false_eq_true, hfinal, forall_const]
          exact ⟨fun hr => ⟨hcheck, fun _ _ => hr⟩, fun hk => hk.resume hb hs⟩

/-- What a call of `http_download` leaves in the counters. -/
def downloadNet (p : DownloadParam) (e : DownloadEnv) : Except Abort Net :=
  (httpDownload p e).map (·.net)

/-- What a call of `http_check` leaves in the counters. -/
def checkNet (p : DownloadParam) (e : DownloadEnv) : Except Abort Net :=
  (httpCheck p e).map Prod.snd

theorem downloadNet_eq (p : DownloadParam) (e : DownloadEnv) :
    downloadNet p e = (httpDownloadOrCheck p true e).map Prod.snd := by
  unfold downloadNet httpDownload
  cases httpDownloadOrCheck p true e <;> rfl

/-- A check is always balanced; a download is balanced if and only if it ends before it
suspends relaying, or does not notice a change of the configuration. -/
theorem download_balanced_iff (p : DownloadParam) (e : DownloadEnv) :
    (Balanced (downloadNet p e) ↔ (downloadChecks p e.request = none → ConfigKept e)) ∧
      Balanced (checkNet p e) := by
  constructor
  · rw [downloadNet_eq]
    exact balanced_big_iff p e
  · exact balanced_small p e

/-! ## A change of the transport -/

/-- A configuration of the client with the given transport. -/
def mqttVia (transport : String) : Mqtt where
  useMqtt := true
  mqttDisableRetainedMessages := false
  useSslClientCert := false
  useSslServerCert := false
  mqttTransport := snprintf 8 transport.toList
  mqttDataFormat := .ruuviRaw
  mqttServer := snprintf 256 "test.mosquitto.org".toList
  mqttPort := 8883
  mqttSendingInterval := 0
  mqttPrefix := .empty 257
  mqttClientId := .empty 51
  mqttUser := .empty 129
  mqttPass := .empty 257

/-- The file of an update. -/
def binaryParam : DownloadParam where
  url := "https://fwupdate.ruuvi.com/ruuvi_gateway_esp.bin"
  rangeStart := 0
  rangeEnd := 0
  authType := .none
  httpAuth := false

/-- No other task has suspended relaying. -/
def noneSuspended : GwStatus := ⟨0, 0, false, false, false, false⟩

/-- A download without failures, which finds the transport `atSuspend` when it suspends relaying
and another one from then on. -/
def transportChanges (atSuspend afterwards : String) : DownloadEnv where
  mqttAtSuspend := mqttVia atSuspend
  suspend := noneSuspended
  isHttpEnabled := noneSuspended
  isMqttEnabled := noneSuspended
  mqttAtCheck := mqttVia afterwards
  request := ⟨true, true, true, true, true, true, true, 200⟩
  mqttAtResume := mqttVia afterwards
  resume := noneSuspended

/-- If the transport changes from SSL to TCP during a download, relaying via MQTT stays
suspended; if it changes from TCP to SSL before the assertion, the assertion fails. -/
theorem transport_change_unbalanced :
    downloadNet binaryParam (transportChanges "SSL" "TCP") = .ok ⟨0, 1⟩ ∧
      downloadNet binaryParam (transportChanges "TCP" "SSL") = .error .relayingEnabled ∧
      ¬∀ p e, Balanced (downloadNet p e) := by
  have hstays : downloadNet binaryParam (transportChanges "SSL" "TCP") = .ok ⟨0, 1⟩ := by rfl
  refine ⟨hstays, rfl, fun h => ?_⟩
  have hnet := (h binaryParam (transportChanges "SSL" "TCP")).net _ hstays
  exact absurd hnet (by decide)

end Relaying
end RuuviGateway
