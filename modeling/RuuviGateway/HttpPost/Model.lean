import RuuviGateway.GwCfgJson.Parse
import RuuviGateway.Lib.Program
import RuuviGateway.Relaying.HttpDownload

/-!
# Posting over HTTP

`http_post_advs.c`, `http_post_stat.c`, `http_post_helper.c` and the parts of `http.c` and
`http_client_config.c` that they use.  A post takes the semaphore of asynchronous requests and
the small part of the TLS buffer.  `http_post_advs` and `http_post_stat` return while the request
is in progress; `http_async_poll` goes on with it and `http_abort_any_req_during_processing` ends
it.  The two checks wait for the response themselves.

The state is `http_async_info_t` with its semaphore and the mutex of the buffer.  A function is a
program over it, which is aborted where an assertion fails and where the gateway restarts.
-/

namespace RuuviGateway
namespace HttpPost

open CString GwCfgJson
open Relaying (HttpRespCode)

/-! ## The state -/

/-- Which of the strings of `esp_http_client_config_t` that are freed are not NULL. -/
structure Certs where
  certPem : Bool
  clientCertPem : Bool
  clientKeyPem : Bool
  deriving DecidableEq, Repr

/-- `http_post_recipient_e`. -/
inductive Recipient where
  | stats
  | advs1
  | advs2
  deriving DecidableEq, Repr

/-- `http_async_info_t`; of the pointers, whether they are not NULL. -/
structure AsyncInfo where
  /-- `p_http_async_sema` can be taken. -/
  semaFree : Bool
  /-- `g_p_tls_shared_buf_mutex_https_post` is locked. -/
  bufLocked : Bool
  tlsSharedBuf : Bool
  httpClientHandle : Bool
  certs : Certs
  useJsonStreamGen : Bool
  /-- `select.p_gen` or `select.cjson_str`. -/
  select : Bool
  recipient : Recipient
  deriving DecidableEq, Repr

/-- Why a function does not return. -/
inductive Abort where
  /-- An assertion: the semaphore is taken. -/
  | asyncSema
  /-- An assertion of `tls_shared_buf_get_https_post`: the mutex is locked. -/
  | tlsSharedBuf
  /-- An assertion of `tls_shared_buf_unlock_https_post`: the pointer is NULL. -/
  | notTheBuffer
  /-- An assertion of the two checks: relaying via HTTP is enabled. -/
  | relayingEnabled
  /-- An assertion: the request is one of another task. -/
  | wrongTask
  /-- `gateway_restart_low_memory`. -/
  | restart
  deriving DecidableEq, Repr

/-- A function that uses `http_async_info_t`. -/
abbrev Prog := StateT AsyncInfo (Except Abort)

/-! ## The two resources -/

/-- `os_sema_wait_immediate` of `p_http_async_sema`, with the assertion after it. -/
def osSemaWaitImmediate : Prog Unit := fun s =>
  if s.semaFree then .ok ((), { s with semaFree := false }) else .error .asyncSema

/-- `os_sema_signal` of `p_http_async_sema`. -/
def osSemaSignal : Prog Unit := modify fun s => { s with semaFree := true }

/-- `tls_shared_buf_get_https_post`, into `p_tls_shared_buf`. -/
def tlsSharedBufGetHttpsPost : Prog Unit := fun s =>
  if s.bufLocked then .error .tlsSharedBuf
  else .ok ((), { s with bufLocked := true, tlsSharedBuf := true })

/-- `tls_shared_buf_unlock_https_post` of `p_tls_shared_buf`. -/
def tlsSharedBufUnlockHttpsPost : Prog Unit := fun s =>
  if s.tlsSharedBuf then .ok ((), { s with bufLocked := false, tlsSharedBuf := false })
  else .error .notTheBuffer

/-- The start of the four functions; the two checks assert that relaying is disabled. -/
def acquire (relayingViaHttpEnabled : Bool) : Prog Unit := do
  osSemaWaitImmediate
  if relayingViaHttpEnabled then throw .relayingEnabled
  tlsSharedBufGetHttpsPost

/-! ## The HTTP client -/

/-- How the steps of `http_client_config_init` and what it reads from the URL. -/
structure ConfigEnv where
  /-- `esp_http_client_config_set_from_url`. -/
  setFromUrl : Bool
  urlHasPath : Bool
  urlHasQuery : Bool

/-- `http_client_config_init`; the path and the query can come from files. -/
def httpClientConfigInit (certs : Certs) (useExtraHttpPath useExtraHttpQuery : Bool)
    (e : ConfigEnv) : Prog Bool := do
  modify fun s => { s with certs := certs }
  if !e.setFromUrl then pure false
  else if e.urlHasPath && useExtraHttpPath then pure false
  else if e.urlHasQuery && useExtraHttpQuery then pure false
  else pure true

/-- `esp_http_client_init`. -/
def espHttpClientInit (ok : Bool) : Prog Bool := do
  modify fun s => { s with httpClientHandle := ok }
  pure ok

/-- `esp_http_client_cleanup`, after which the handle is set to NULL. -/
def espHttpClientCleanup : Prog Unit := modify fun s => { s with httpClientHandle := false }

/-- How `http_send_async` goes on. -/
structure SendEnv where
  /-- `esp_http_client_set_cb_on_post_get_chunk` or `esp_http_client_set_post_field`. -/
  setPostData : Bool
  /-- The first `esp_http_client_perform` returns `ESP_ERR_HTTP_EAGAIN`. -/
  again : Bool

/-- `http_send_async`. -/
def httpSendAsync (e : SendEnv) : Prog Bool :=
  if !e.setPostData then pure false
  else if !e.again then do
    modify fun s => { s with certs := ⟨false, false, false⟩ }
    espHttpClientCleanup
    pure false
  else pure true

/-- `http_async_info_free_data`. -/
def httpAsyncInfoFreeData : Prog Unit := do
  let s ← get
  if s.tlsSharedBuf then tlsSharedBufUnlockHttpsPost
  modify fun s => { s with certs := ⟨false, false, false⟩, select := false }

/-- `http_post_helper_wait_until_async_req_completed_and_gen_resp`; `resp` is the response of
`http_wait_until_async_req_completed`. -/
def waitUntilAsyncReqCompletedAndGenResp (resp : HttpRespCode) : Prog HttpRespCode := do
  espHttpClientCleanup
  httpAsyncInfoFreeData
  pure (if resp = 429 then 200 else resp)

/-! ## Posting reports -/

/-- `http_send_advs_internal_params_t`, as far as the steps depend on it. -/
structure SendAdvsParams where
  flagPostToRuuvi : Bool
  useSslClientCert : Bool
  useSslServerCert : Bool
  useExtraHttpPath : Bool
  useExtraHttpQuery : Bool
  useExtraHttpHeaders : Bool

/-- What `http_send_advs_internal` finds and how its steps end. -/
structure AdvsEnv where
  /-- `http_json_create_stream_gen_advs`, for `flag_raw_data` and `flag_decode`. -/
  streamGen : Bool → Bool → Bool
  clientCertRead : Bool
  clientKeyRead : Bool
  serverCertRead : Bool
  config : ConfigEnv
  clientInit : Bool
  /-- The memory for the header `Authorization`. -/
  authHeader : Bool
  send : SendEnv

/-- `http_client_config_init_for_http_target`. -/
def httpClientConfigInitForHttpTarget (p : SendAdvsParams) (e : AdvsEnv) : Prog Bool :=
  if p.useSslClientCert && !e.clientCertRead then pure false
  else if p.useSslClientCert && !e.clientKeyRead then pure false
  else if p.useSslServerCert && !e.serverCertRead then pure false
  else
    httpClientConfigInit ⟨p.useSslServerCert, p.useSslClientCert, p.useSslClientCert⟩
      p.useExtraHttpPath p.useExtraHttpQuery e.config

/-- `http_handle_add_authorization_if_needed`. -/
def httpHandleAddAuthorizationIfNeeded (authType : HttpAuthType) (authHeader : Bool) : Bool :=
  match authType with
  | .none | .basic => true
  | .bearer | .token | .apikey => authHeader

/-- `flag_raw_data` and `flag_decode`. -/
def advsFormat (flagPostToRuuvi : Bool) (format : HttpDataFormat) : Bool × Bool :=
  if flagPostToRuuvi then (true, false)
  else
    match format with
    | .ruuvi => (true, false)
    | .ruuviRawAndDecoded => (true, true)
    | .ruuviDecoded => (false, true)

/-- `http_send_advs_internal`. -/
def httpSendAdvsInternal (cfg : Http) (p : SendAdvsParams) (e : AdvsEnv) : Prog Bool := do
  let format := advsFormat p.flagPostToRuuvi cfg.dataFormat
  let created := e.streamGen format.1 format.2
  modify fun s => { s with
    recipient := if p.flagPostToRuuvi then .advs1 else .advs2
    useJsonStreamGen := true
    select := created }
  if !created then throw .restart
  else if !(← httpClientConfigInitForHttpTarget p e) then
    httpAsyncInfoFreeData
    pure false
  else if !(← espHttpClientInit e.clientInit) then
    httpAsyncInfoFreeData
    pure false
  else if !p.flagPostToRuuvi && !httpHandleAddAuthorizationIfNeeded cfg.authType e.authHeader then
    -- the handle stays
    httpAsyncInfoFreeData
    pure false
  else if !(← httpSendAsync e.send) then
    espHttpClientCleanup
    httpAsyncInfoFreeData
    pure false
  else pure true

/-- `http_post_advs`: whether a request is in progress. -/
def httpPostAdvs (flagPostToRuuvi : Bool) (cfg : Http) (e : AdvsEnv) : Prog Bool := do
  acquire false
  let p : SendAdvsParams := {
    flagPostToRuuvi := flagPostToRuuvi
    useSslClientCert := !flagPostToRuuvi && cfg.httpUseSslClientCert
    useSslServerCert := !flagPostToRuuvi && cfg.httpUseSslServerCert
    useExtraHttpPath := !flagPostToRuuvi && cfg.httpUseExtraHttpPath
    useExtraHttpQuery := !flagPostToRuuvi && cfg.httpUseExtraHttpQuery
    useExtraHttpHeaders := !flagPostToRuuvi && cfg.httpUseExtraHttpHeaders }
  if !(← httpSendAdvsInternal cfg p e) then
    osSemaSignal
    pure false
  else pure true

/-! ## Checking where reports are posted to -/

/-- `http_check_params_t`. -/
structure HttpCheckParams where
  url : Option (List Char)
  authType : HttpAuthType
  user : Option (List Char)
  pass : Option (List Char)
  useSslClientCert : Bool
  useSslServerCert : Bool
  useExtraHttpPath : Bool
  useExtraHttpQuery : Bool
  useExtraHttpHeaders : Bool

/-- `http_check_post_advs_prep_auth_basic`. -/
def httpCheckPostAdvsPrepAuthBasic (user pass : Option (List Char)) (auth : HttpAuth) :
    Option HttpAuth :=
  match user, pass with
  | some user, some pass =>
      if 51 ≤ user.length ∨ 51 ≤ pass.length then none
      else some (HttpAuth.setPassword pass (HttpAuth.setUser user auth))
  | _, _ => none

/-- `http_check_post_advs_prep_auth_bearer`, `http_check_post_advs_prep_auth_token` and
`http_check_post_advs_prep_auth_apikey`, whose buffers have the same size. -/
def httpCheckPostAdvsPrepAuthToken (token : Option (List Char)) (auth : HttpAuth) :
    Option HttpAuth :=
  match token with
  | none => none
  | some token => if 256 ≤ token.length then none else some (HttpAuth.setToken token auth)

/-- The credentials of `http_check_post_advs_internal3`, over memory that is zero. -/
def checkPostAdvsAuth (p : HttpCheckParams) : Option HttpAuth :=
  match p.authType with
  | .none => some (Mem.zero 256)
  | .basic => httpCheckPostAdvsPrepAuthBasic p.user p.pass (Mem.zero 256)
  | .bearer | .token | .apikey => httpCheckPostAdvsPrepAuthToken p.pass (Mem.zero 256)

/-- The configuration that `http_check_post_advs_internal3` makes of its parameters, if it
accepts them. -/
def checkPostAdvsCfg (p : HttpCheckParams) : Option Http := do
  let url ← p.url
  if 256 ≤ url.length then none
  else
    let auth ← checkPostAdvsAuth p
    let flagPostToRuuvi := url == ruuviGatewayHttpDefaultUrl.toList
    some {
      useHttpRuuvi := flagPostToRuuvi
      useHttp := !flagPostToRuuvi
      httpUseSslClientCert := p.useSslClientCert
      httpUseSslServerCert := p.useSslServerCert
      httpUseExtraHttpPath := p.useExtraHttpPath
      httpUseExtraHttpQuery := p.useExtraHttpQuery
      httpUseExtraHttpHeaders := p.useExtraHttpHeaders
      httpUrl := snprintf 256 url
      httpPeriod := 0
      dataFormat := .ruuvi
      authType := p.authType
      auth := auth }

/-- What `http_check_post_advs` finds and how its steps end. -/
structure CheckAdvsEnv where
  /-- `gw_status_is_relaying_via_http_enabled`. -/
  relayingViaHttpEnabled : Bool
  cfgAllocated : Bool
  send : AdvsEnv
  resp : HttpRespCode

/-- `http_check_post_advs_internal3`. -/
def httpCheckPostAdvsInternal3 (p : HttpCheckParams) (e : CheckAdvsEnv) : Prog HttpRespCode :=
  match checkPostAdvsCfg p with
  | none => pure 400
  | some cfg => do
      let params : SendAdvsParams := {
        flagPostToRuuvi := cfg.useHttpRuuvi
        useSslClientCert := p.useSslClientCert
        useSslServerCert := p.useSslServerCert
        useExtraHttpPath := p.useExtraHttpPath
        useExtraHttpQuery := p.useExtraHttpQuery
        useExtraHttpHeaders := p.useExtraHttpHeaders }
      if !(← httpSendAdvsInternal cfg params e.send) then pure 500
      else waitUntilAsyncReqCompletedAndGenResp e.resp

/-- `http_check_post_advs_internal2`. -/
def httpCheckPostAdvsInternal2 (p : HttpCheckParams) (e : CheckAdvsEnv) : Prog HttpRespCode :=
  if !e.cfgAllocated then pure 500 else httpCheckPostAdvsInternal3 p e

/-- `http_check_post_advs`. -/
def httpCheckPostAdvs (p : HttpCheckParams) (e : CheckAdvsEnv) : Prog HttpRespCode := do
  acquire e.relayingViaHttpEnabled
  let resp ← httpCheckPostAdvsInternal2 p e
  osSemaSignal
  pure resp

/-! ## Posting statistics -/

/-- What `http_send_statistics_internal` finds and how its steps end. -/
structure StatEnv where
  /-- `http_json_create_status_str`. -/
  statusCreated : Bool
  clientCertRead : Bool
  clientKeyRead : Bool
  serverCertRead : Bool
  config : ConfigEnv
  clientInit : Bool
  send : SendEnv

/-- `http_send_statistics_internal`. -/
def httpSendStatisticsInternal (useSslClientCert useSslServerCert : Bool) (e : StatEnv) :
    Prog Bool := do
  modify fun s => { s with
    recipient := .stats
    useJsonStreamGen := false
    select := e.statusCreated }
  if !e.statusCreated then pure false
  else if !(← httpClientConfigInit ⟨useSslServerCert && e.serverCertRead,
      useSslClientCert && e.clientCertRead, useSslClientCert && e.clientKeyRead⟩ false false
      e.config) then
    httpAsyncInfoFreeData
    pure false
  else if !(← espHttpClientInit e.clientInit) then
    httpAsyncInfoFreeData
    pure false
  else if !(← httpSendAsync e.send) then
    espHttpClientCleanup
    httpAsyncInfoFreeData
    pure false
  else pure true

/-- `http_post_stat`: whether a request is in progress. -/
def httpPostStat (useSslClientCert useSslServerCert : Bool) (e : StatEnv) : Prog Bool := do
  acquire false
  if !(← httpSendStatisticsInternal useSslClientCert useSslServerCert e) then
    osSemaSignal
    pure false
  else pure true

/-! ## Checking where statistics are posted to -/

/-- `http_post_stat_check_user` and `http_post_stat_check_pass`, whose limits are the same. -/
def httpPostStatCheckText (text : Option (List Char)) : Bool :=
  match text with
  | none => false
  | some text => !decide (51 ≤ text.length)

/-- The configuration that `http_check_post_stat_internal3` makes of its parameters, if it
accepts them; it leaves the three flags as they are in memory. -/
def checkPostStatCfg (p : HttpCheckParams) : Option HttpStat := do
  let url ← p.url
  if 256 ≤ url.length then none
  else
    let cfg (user pass : List Char) : HttpStat := {
      useHttpStat := false
      httpStatUseSslClientCert := false
      httpStatUseSslServerCert := false
      httpStatUrl := snprintf 256 url
      httpStatUser := snprintf 51 user
      httpStatPass := snprintf 51 pass }
    match p.authType with
    | .none => some (cfg [] [])
    | .basic =>
        if !httpPostStatCheckText p.user || !httpPostStatCheckText p.pass then none
        else some (cfg (p.user.getD []) (p.pass.getD []))
    | .bearer | .token | .apikey =>
        if !httpPostStatCheckText p.pass then none else some (cfg [] (p.pass.getD []))

/-- What `http_check_post_stat` finds and how its steps end. -/
structure CheckStatEnv where
  /-- `gw_status_is_relaying_via_http_enabled`. -/
  relayingViaHttpEnabled : Bool
  cfgAllocated : Bool
  /-- `adv_post_statistics_info_generate`. -/
  statInfo : Bool
  send : StatEnv
  resp : HttpRespCode

/-- `http_check_post_stat_internal3`. -/
def httpCheckPostStatInternal3 (p : HttpCheckParams) (e : CheckStatEnv) : Prog HttpRespCode :=
  match checkPostStatCfg p with
  | none => pure 400
  | some _ =>
      if !e.statInfo then pure 500
      else do
        if !(← httpSendStatisticsInternal p.useSslClientCert p.useSslServerCert e.send) then
          pure 500
        else waitUntilAsyncReqCompletedAndGenResp e.resp

/-- `http_check_post_stat_internal2`. -/
def httpCheckPostStatInternal2 (p : HttpCheckParams) (e : CheckStatEnv) : Prog HttpRespCode :=
  if !e.cfgAllocated then pure 500 else httpCheckPostStatInternal3 p e

/-- `http_check_post_stat`. -/
def httpCheckPostStat (p : HttpCheckParams) (e : CheckStatEnv) : Prog HttpRespCode := do
  acquire e.relayingViaHttpEnabled
  let resp ← httpCheckPostStatInternal2 p e
  osSemaSignal
  pure resp

/-! ## Going on with a request -/

/-- How `esp_http_client_perform` ends in `http_async_poll`. -/
inductive Perform where
  | again
  | ok
  | failed
  /-- There is no memory for the TLS connection. -/
  | sslAllocFailed
  deriving DecidableEq, Repr

/-- `http_async_poll`: whether the request has been completed. -/
def httpAsyncPoll (sameTask : Bool) (err : Perform) : Prog Bool := do
  if !sameTask then throw .wrongTask
  else if err = .again then pure false
  else if err = .sslAllocFailed then throw .restart
  else
    espHttpClientCleanup
    httpAsyncInfoFreeData
    osSemaSignal
    pure true

/-- `http_abort_any_req_during_processing`. -/
def httpAbortAnyReqDuringProcessing (sameTask : Bool) : Prog Unit := do
  let s ← get
  if s.semaFree then
    osSemaWaitImmediate
    osSemaSignal
  else if !sameTask then throw .wrongTask
  else
    espHttpClientCleanup
    httpAsyncInfoFreeData
    osSemaSignal

end HttpPost
end RuuviGateway
