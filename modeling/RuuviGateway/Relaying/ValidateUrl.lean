import Mathlib.Data.List.Infix
import RuuviGateway.HttpPost.Model
import RuuviGateway.Relaying.Handlers

/-!
# Checking a URL of the UI

`validate_url.c`, the handler of `GET /validate_url`.  It suspends relaying, makes a request the
way the gateway would with the settings that the UI asks about, and resumes relaying.  The
parameters are the text after `?`; looking up a key and decoding its value
(`http_server_get_from_params_with_decoding`) can also fail for want of memory, so what it
returns is part of what the handler finds.
-/

namespace RuuviGateway
namespace Relaying

open CString GwCfgJson Program
open HttpPost (HttpCheckParams)

/-! ## Parameters -/

/-- `validate_url_type_e`. -/
inductive ValidateUrlType where
  | invalid
  | postAdvs
  | postStat
  | checkMqtt
  | checkRemoteCfg
  | checkFwUpdateUrl
  | checkFile
  deriving DecidableEq, Repr

/-- `validate_url_params_t`. -/
structure ValidateUrlParams where
  url : List Char
  user : Option (List Char)
  password : Option (List Char)
  authType : HttpAuthType
  flagUseSavedPassword : Bool
  useSslClientCert : Bool
  useSslServerCert : Bool
  useExtraHttpPath : Bool
  useExtraHttpQuery : Bool
  useExtraHttpHeaders : Bool

/-- What the parameters give. -/
structure ParamsEnv where
  /-- `http_server_get_from_params_with_decoding`. -/
  decoded : String → Option (List Char)
  /-- `http_server_decrypt_by_params`. -/
  decrypted : List Char → List Char → List Char → Option (List Char)

/-- `strstr`: the rest of `s` from the first place where `pat` stands. -/
def strstr (s pat : List Char) : Option (List Char) :=
  s.tails.find? fun rest => pat.isPrefixOf rest

section strstr

variable {pat : List Char}

theorem strstr_cons (c : Char) (s : List Char) :
    strstr (c :: s) pat = if pat <+: c :: s then some (c :: s) else strstr s pat := by
  rw [strstr, List.tails_cons, List.find?_cons]
  by_cases h : pat <+: c :: s
  · rw [if_pos h, List.isPrefixOf_iff_prefix.mpr h]
  · rw [if_neg h, Bool.eq_false_iff.mpr (mt List.isPrefixOf_iff_prefix.mp h)]
    rfl

theorem strstr_nil (hpat : pat ≠ []) : strstr [] pat = none := by
  simp [strstr, hpat]

/-- What is found is an end of the text that begins with the key. -/
theorem strstr_spec (hpat : pat ≠ []) {s rest : List Char} (h : strstr s pat = some rest) :
    pat <+: rest ∧ rest <:+ s := by
  induction s with
  | nil =>
    rw [strstr_nil hpat] at h
    exact absurd h (by simp)
  | cons c s ih =>
    rw [strstr_cons] at h
    split at h
    · rename_i hpre
      obtain rfl := Option.some.inj h
      exact ⟨hpre, List.suffix_rfl⟩
    · obtain ⟨hpre, hsuffix⟩ := ih h
      exact ⟨hpre, hsuffix.trans (List.suffix_cons c s)⟩

end strstr

/-- `validate_url_get_bool_from_params`. -/
def validateUrlGetBoolFromParams (e : ParamsEnv) (key : String) : Bool :=
  e.decoded key == some "true".toList

/-- `validate_url_get_password_from_params`. -/
def validateUrlGetPasswordFromParams (e : ParamsEnv) : Option (List Char) := do
  let password ← e.decoded "encrypted_password="
  let iv ← e.decoded "encrypted_password_iv="
  let hash ← e.decoded "encrypted_password_hash="
  e.decrypted password iv hash

/-- The value after the first `pre`, up to the next `&`. -/
def rawValue (params : List Char) (pre : String) : Option (List Char) :=
  (strstr params pre.toList).map fun rest =>
    (rest.drop pre.toList.length).takeWhile (· != '&')

/-- `strncmp(value, text, len) == 0`, where `len` is the length of the value. -/
def startsText (value : List Char) (text : String) : Bool := value.isPrefixOf text.toList

/-- `validate_url_get_validate_type_from_params`. -/
def validateUrlGetValidateTypeFromParams (params : List Char) : ValidateUrlType :=
  match rawValue params "validate_type=" with
  | none => .invalid
  | some value =>
      if startsText value "check_post_advs" then .postAdvs
      else if startsText value "check_post_stat" then .postStat
      else if startsText value "check_mqtt" then .checkMqtt
      else if startsText value "check_remote_cfg" then .checkRemoteCfg
      else if startsText value "check_fw_update_url" then .checkFwUpdateUrl
      else if startsText value "check_file" then .checkFile
      else .invalid

/-- `validate_url_get_bool_param` and `validate_url_get_mqtt_disable_retained_messages`. -/
def validateUrlGetBoolParam (params : List Char) (pre : String) : Bool :=
  match rawValue params pre with
  | none => false
  | some value => startsText value "true"

/-- `validate_url_get_auth_type`. -/
def validateUrlGetAuthType (e : ParamsEnv) : Option HttpAuthType :=
  match e.decoded "auth_type=" with
  | none => none
  | some s =>
      if s = "none".toList then some .none
      else if s = "basic".toList then some .basic
      else if s = "bearer".toList then some .bearer
      else if s = "token".toList then some .token
      else if s = "api_key".toList then some .apikey
      else none

/-! ## Responses -/

/-- A response: one of the fixed ones, or what `http_server_cb_gen_resp` and
`http_server_cb_gen_resp_json` write, which is a fixed one too when there is no memory. -/
inductive Response where
  | fixed (code : HttpRespCode)
  | gen (code : HttpRespCode) (message : String)
  | genJson (code : HttpRespCode) (json : List Char)

/-! ## The checks of the recipients -/

/-- What `validate_url_internal` finds and how its steps end. -/
structure ValidateUrlEnv where
  params : ParamsEnv
  suspend : GwStatus
  resume : GwStatus
  /-- `http_parser_parse_url` and the memory for it. -/
  urlParsed : Bool
  /-- `gw_cfg_get_http_password_copy`, or that of the statistics or of MQTT. -/
  savedPassword : Option (List Char)
  httpCheckPostAdvs : HttpCheckParams → Response
  httpCheckPostStat : HttpCheckParams → Response
  httpCheckMqtt : Mqtt → Response
  /-- `calloc` for the configuration under test, or for the credentials. -/
  allocated : Bool
  /-- `os_str_to_uint32_cptr`: the number and what follows it. -/
  strToUint32 : List Char → Nat × List Char
  /-- `gw_cfg_get_remote_cfg_copy`. -/
  savedRemoteCfg : Option Remote
  suspendRemote : GwStatus
  gwCfg : GwCfgDownloadEnv
  resumeRemote : GwStatus
  fwUpdateInfo : JsonEnv
  /-- `cJSON_Parse` and `parse_fw_update_info_json`: the URL, if the text is JSON and valid. -/
  parseFwUpdateInfo : List Char → Option (Option String)
  files : String → FileEnv
  file : DownloadEnv

/-- The response to a URL that cannot be parsed. -/
def incorrectUrl (p : ValidateUrlParams) : Response :=
  .gen 400 ("Incorrect URL: '" ++ String.ofList p.url ++ "'")

/-- `validate_url_post_advs`. -/
def validateUrlPostAdvs (p : ValidateUrlParams) (e : ValidateUrlEnv) : Response :=
  if !e.urlParsed then incorrectUrl p
  else
    match e.savedPassword with
    | none => .fixed 500
    | some saved =>
        e.httpCheckPostAdvs {
          url := some p.url
          authType := p.authType
          user := p.user
          pass := if p.flagUseSavedPassword then some saved else p.password
          useSslClientCert := p.useSslClientCert
          useSslServerCert := p.useSslServerCert
          useExtraHttpPath := p.useExtraHttpPath
          useExtraHttpQuery := p.useExtraHttpQuery
          useExtraHttpHeaders := p.useExtraHttpHeaders }

/-- The parameters of the checks of the statistics and of MQTT. -/
def checkParams (p : ValidateUrlParams) (saved : List Char) : HttpCheckParams where
  url := some p.url
  authType := p.authType
  user := if p.authType = .none then some [] else p.user
  pass :=
    if p.authType = .none then some []
    else if p.flagUseSavedPassword then some saved else p.password
  useSslClientCert := p.useSslClientCert
  useSslServerCert := p.useSslServerCert
  useExtraHttpPath := false
  useExtraHttpQuery := false
  useExtraHttpHeaders := false

/-- `validate_url_post_stat`. -/
def validateUrlPostStat (p : ValidateUrlParams) (e : ValidateUrlEnv) : Response :=
  if !e.urlParsed then incorrectUrl p
  else
    match e.savedPassword with
    | none => .fixed 500
    | some saved => e.httpCheckPostStat (checkParams p saved)

/-! ## MQTT -/

/-- The transport that a prefix stands for. -/
def mqttTransport (pre : List Char) : Option String :=
  if pre = "mqtt://".toList then some "TCP"
  else if pre = "mqtts://".toList then some "SSL"
  else if pre = "mqttws://".toList then some "WS"
  else if pre = "mqttwss://".toList then some "WSS"
  else none

/-- `validate_url_parse_mqtt_url`: the transport, the server and the port. -/
def validateUrlParseMqttUrl (e : ValidateUrlEnv) (url : List Char) :
    Option (String × List Char × UInt16) := do
  let rest ← strstr url "://".toList
  -- the prefix goes through a buffer of `MQTT_URL_PREFIX_LEN` bytes
  let pre := (url.take (url.length - rest.length + 3)).take 19
  let transport ← mqttTransport pre
  let server := rest.drop 3
  let colon ← strstr server [':']
  let host := server.take (server.length - colon.length)
  if 256 ≤ host.length then none
  else
    let (port, tail) := e.strToUint32 (colon.drop 1)
    if tail ≠ [] then none
    else if port = 0 ∨ 65535 < port then none
    else some (transport, host, UInt16.ofNat port)

/-- `validate_url_on_get_check_mqtt`. -/
def validateUrlOnGetCheckMqtt (c : HttpCheckParams) (params : List Char) (e : ValidateUrlEnv) :
    Response :=
  match c.user, c.pass with
  | some user, some pass =>
      match e.params.decoded "mqtt_topic_prefix=", e.params.decoded "mqtt_client_id=" with
      | some topicPrefix, some clientId =>
          if !e.allocated then .fixed 500
          else if 257 ≤ topicPrefix.length ∨ 51 ≤ clientId.length ∨ 129 ≤ user.length ∨
              257 ≤ pass.length then .fixed 400
          else
            match validateUrlParseMqttUrl e (c.url.getD []) with
            | none => .fixed 400
            | some (transport, server, port) =>
                e.httpCheckMqtt {
                  useMqtt := true
                  mqttDisableRetainedMessages :=
                    validateUrlGetBoolParam params "mqtt_disable_retained_messages="
                  useSslClientCert := c.useSslClientCert
                  useSslServerCert := c.useSslServerCert
                  mqttTransport := snprintf 8 transport.toList
                  mqttDataFormat := .ruuviRaw
                  mqttServer := snprintf 256 server
                  mqttPort := port
                  mqttSendingInterval := 0
                  mqttPrefix := snprintf 257 topicPrefix
                  mqttClientId := snprintf 51 clientId
                  mqttUser := snprintf 129 user
                  mqttPass := snprintf 257 pass }
      | _, _ => .fixed 400
  -- without authentication neither is NULL
  | _, _ => .fixed 400

/-- `validate_url_check_mqtt`. -/
def validateUrlCheckMqtt (p : ValidateUrlParams) (params : List Char) (e : ValidateUrlEnv) :
    Response :=
  match e.savedPassword with
  | none => .fixed 500
  | some saved => validateUrlOnGetCheckMqtt (checkParams p saved) params e

/-! ## The remote configuration -/

/-- `gw_cfg_remote_set_auth_basic`. -/
def gwCfgRemoteSetAuthBasic (r : Remote) (user pass : Option (List Char)) : Option Remote :=
  match user, pass with
  | some user, some pass =>
      if 51 ≤ user.length then none
      else if 51 ≤ pass.length then none
      else some { r with auth := HttpAuth.setPassword pass (HttpAuth.setUser user r.auth) }
  | _, _ => none

/-- `gw_cfg_remote_set_auth_bearer`, `gw_cfg_remote_set_auth_token` and
`gw_cfg_remote_set_auth_apikey`, whose buffers have the same size. -/
def gwCfgRemoteSetAuthToken (r : Remote) (token : Option (List Char)) : Option Remote :=
  match token with
  | none => none
  | some token =>
      if 256 ≤ token.length then none
      else some { r with auth := HttpAuth.setToken token r.auth }

/-- The credentials of `validate_url_on_get_check_remote_cfg`. -/
def setRemoteAuth (c : HttpCheckParams) (r : Remote) : Option Remote :=
  match c.authType with
  | .none => some r
  | .basic => gwCfgRemoteSetAuthBasic r c.user c.pass
  | .bearer | .token | .apikey => gwCfgRemoteSetAuthToken r c.pass

/-- `validate_url_on_get_check_remote_cfg`. -/
def validateUrlOnGetCheckRemoteCfg (c : HttpCheckParams) (e : ValidateUrlEnv) :
    Handler Response :=
  if !e.allocated then pure (.fixed 500)
  else
    match setRemoteAuth c {
        useRemoteCfg := true
        useSslClientCert := c.useSslClientCert
        useSslServerCert := c.useSslServerCert
        url := snprintf 256 (c.url.getD [])
        authType := c.authType
        auth := Mem.zero 256
        refreshIntervalMinutes := 0 } with
    | none => pure (.fixed 400)
    | some remote => do
        suspendRelaying .httpRelaying e.suspendRemote
        let (code, errMsg) ← httpServerGwCfgDownloadAndParse remote e.gwCfg
        resumeRelaying .httpRelaying e.resumeRemote
        pure (.gen code (errMsg.getD ""))

/-- `validate_url_check_remote_cfg`. -/
def validateUrlCheckRemoteCfg (p : ValidateUrlParams) (e : ValidateUrlEnv) : Handler Response :=
  if !e.urlParsed then pure (incorrectUrl p)
  else
    match e.savedRemoteCfg with
    | none => pure (.fixed 500)
    | some saved =>
        let savedPassword : Option (List Char) :=
          match p.authType with
          | .none => none
          | .basic => some saved.auth.password
          | .bearer | .token | .apikey => some saved.auth.token
        validateUrlOnGetCheckRemoteCfg {
          url := some p.url
          authType := p.authType
          user := p.user
          pass := if p.flagUseSavedPassword then savedPassword else p.password
          useSslClientCert := p.useSslClientCert
          useSslServerCert := p.useSslServerCert
          useExtraHttpPath := false
          useExtraHttpQuery := false
          useExtraHttpHeaders := false } e

/-! ## The URL of updates and a file -/

/-- `validate_url_check_fw_update_url_step2` and `validate_url_check_fw_update_url_step3`. -/
def validateUrlCheckFwUpdateUrlStep2 (json : List Char) (e : ValidateUrlEnv) :
    Handler Response :=
  match e.parseFwUpdateInfo json with
  | none => pure (.gen 502 "Server returned incorrect json: could not parse json")
  | some none => pure (.gen 502 "Server returned incorrect json: could not get latest/url")
  | some (some url) => do
      let (code, errFileName) ← httpServerCheckFwUpdateBinaryFiles url e.files
      if code ≠ 200 then pure (.gen code ("Failed to download " ++ errFileName.getD "(null)"))
      else pure (.genJson 200 json)

/-- `validate_url_check_fw_update_url`, with `http_download_firmware_update_info`. -/
def validateUrlCheckFwUpdateUrl (p : ValidateUrlParams) (e : ValidateUrlEnv) :
    Handler Response :=
  if !e.urlParsed then pure (incorrectUrl p)
  else do
    let info ← httpDownloadJson
      { url := String.ofList p.url
        rangeStart := 0
        rangeEnd := 0
        authType := .none
        httpAuth := false } e.fwUpdateInfo
    if info.isError then
      match info.jsonBuf with
      | some json => pure (.gen info.httpRespCode (String.ofList json))
      | none => pure (.gen info.httpRespCode "Server returned error")
    else
      match info.jsonBuf with
      | none => pure (.gen 500 "Can't allocate memory for json")
      | some json => validateUrlCheckFwUpdateUrlStep2 json e

/-- The preparation of the credentials in `validate_url_check_file` succeeds. -/
def checkFilePrepAuth (p : ValidateUrlParams) : Bool :=
  match p.authType with
  | .none => true
  | .basic => (p.user.any (! ·.isEmpty)) && (p.password.any (! ·.isEmpty))
  | .bearer | .token | .apikey => p.password.any (! ·.isEmpty)

/-- `validate_url_check_file`. -/
def validateUrlCheckFile (p : ValidateUrlParams) (e : ValidateUrlEnv) : Handler Response :=
  if p.authType ≠ .none ∧ e.allocated = false then pure (.fixed 500)
  else if !checkFilePrepAuth p then pure (.fixed 400)
  else do
    let code ← callHttpCheck
      { url := String.ofList p.url
        rangeStart := 0
        rangeEnd := 0
        authType := p.authType
        httpAuth := decide (p.authType ≠ .none) } e.file
    pure (.gen code "")

/-! ## The handler -/

/-- `validate_url_internal`. -/
def validateUrlInternal (validateType : ValidateUrlType) (p : ValidateUrlParams)
    (params : List Char) (e : ValidateUrlEnv) : Handler Response :=
  match validateType with
  | .invalid => pure (.fixed 500)
  | .postAdvs => pure (validateUrlPostAdvs p e)
  | .postStat => pure (validateUrlPostStat p e)
  | .checkMqtt => pure (validateUrlCheckMqtt p params e)
  | .checkRemoteCfg => validateUrlCheckRemoteCfg p e
  | .checkFwUpdateUrl => validateUrlCheckFwUpdateUrl p e
  | .checkFile => validateUrlCheckFile p e

/-- How a check of this type suspends relaying. -/
def ValidateUrlType.kind (validateType : ValidateUrlType) : Kind :=
  if validateType = .checkMqtt then .relaying else .httpRelaying

/-- `validate_url`; `params` is `none` if there are none. -/
def validateUrl (params : Option (List Char)) (e : ValidateUrlEnv) : Handler Response :=
  match params with
  | none => pure (.fixed 400)
  | some params =>
      match validateUrlGetAuthType e.params with
      | none => pure (.fixed 400)
      | some authType =>
          match e.params.decoded "url=" with
          | none => pure (.fixed 400)
          | some url => do
              let p : ValidateUrlParams := {
                url := url
                user := e.params.decoded "user="
                password := validateUrlGetPasswordFromParams e.params
                authType := authType
                flagUseSavedPassword := validateUrlGetBoolFromParams e.params "use_saved_password="
                useSslClientCert := validateUrlGetBoolParam params "use_ssl_client_cert="
                useSslServerCert := validateUrlGetBoolParam params "use_ssl_server_cert="
                useExtraHttpPath := validateUrlGetBoolParam params "use_extra_http_path="
                useExtraHttpQuery := validateUrlGetBoolParam params "use_extra_http_query="
                useExtraHttpHeaders := validateUrlGetBoolParam params "use_extra_http_headers=" }
              let validateType := validateUrlGetValidateTypeFromParams params
              suspendRelaying validateType.kind e.suspend
              let resp ← validateUrlInternal validateType p params e
              resumeRelaying validateType.kind e.resume
              pure resp

/-! ## It gives the counters back -/

theorem restores_onGetCheckRemoteCfg (c : HttpCheckParams) (e : ValidateUrlEnv) :
    Restores NonNeg (validateUrlOnGetCheckRemoteCfg c e) := by
  refine Moves.ite (fun _ => Restores.pure _) fun _ => ?_
  split
  · exact Restores.pure _
  · exact Restores.between (moves_suspend _ _) (fun _ h => h.held _)
      (restores_gwCfgDownloadAndParse _ _) (moves_resume _ _) fun _ => Restores.pure _

theorem restores_checkRemoteCfg (p : ValidateUrlParams) (e : ValidateUrlEnv) :
    Restores NonNeg (validateUrlCheckRemoteCfg p e) := by
  refine Moves.ite (fun _ => Restores.pure _) fun _ => ?_
  cases e.savedRemoteCfg with
  | none => exact Restores.pure _
  | some saved => exact restores_onGetCheckRemoteCfg _ _

theorem restores_checkFwUpdateUrlStep2 (json : List Char) (e : ValidateUrlEnv) :
    Restores NonNeg (validateUrlCheckFwUpdateUrlStep2 json e) := by
  unfold validateUrlCheckFwUpdateUrlStep2
  split
  · exact Restores.pure _
  · exact Restores.pure _
  · refine Restores.bind (restores_checkFiles _ _ _) fun _ => ?_
    exact Moves.ite (fun _ => Restores.pure _) fun _ => Restores.pure _

theorem restores_checkFwUpdateUrl (p : ValidateUrlParams) (e : ValidateUrlEnv) :
    Restores NonNeg (validateUrlCheckFwUpdateUrl p e) := by
  refine Moves.ite (fun _ => Restores.pure _) fun _ => ?_
  refine Restores.bind (restores_httpDownloadJson _ _) fun info => ?_
  refine Moves.ite (fun _ => ?_) fun _ => ?_
  · cases info.jsonBuf <;> exact Restores.pure _
  · cases info.jsonBuf with
    | none => exact Restores.pure _
    | some json => exact restores_checkFwUpdateUrlStep2 json e

theorem restores_validateUrlCheckFile (p : ValidateUrlParams) (e : ValidateUrlEnv) :
    Restores NonNeg (validateUrlCheckFile p e) := by
  refine Moves.ite (fun _ => Restores.pure _) fun _ =>
    Moves.ite (fun _ => Restores.pure _) fun _ => ?_
  exact Restores.bind (restores_httpCheck _ _) fun _ => Restores.pure _

theorem restores_validateUrlInternal (validateType : ValidateUrlType) (p : ValidateUrlParams)
    (params : List Char) (e : ValidateUrlEnv) :
    Restores NonNeg (validateUrlInternal validateType p params e) := by
  cases validateType with
  | invalid => exact Restores.pure _
  | postAdvs => exact Restores.pure _
  | postStat => exact Restores.pure _
  | checkMqtt => exact Restores.pure _
  | checkRemoteCfg => exact restores_checkRemoteCfg p e
  | checkFwUpdateUrl => exact restores_checkFwUpdateUrl p e
  | checkFile => exact restores_validateUrlCheckFile p e

/-- Whatever is checked and however it ends, the handler takes back what it has added. -/
theorem restores_validateUrl (params : Option (List Char)) (e : ValidateUrlEnv) :
    Restores NonNeg (validateUrl params e) := by
  unfold validateUrl
  split
  · exact Restores.pure _
  · split
    · exact Restores.pure _
    · split
      · exact Restores.pure _
      · exact Restores.between (moves_suspend _ _) (fun _ h => h.held _)
          (restores_validateUrlInternal _ _ _ _) (moves_resume _ _) fun _ => Restores.pure _

end Relaying
end RuuviGateway
