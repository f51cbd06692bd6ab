import RuuviGateway.GwCfgJson.Document
import RuuviGateway.GwCfgJson.Reachable

/-!
# Parsing a generated document

For each section, what its parser makes of the items that its generator added: the section is
`restored`, over the section `old` that the document is parsed over.  The text for the UI has
no secrets, so they are those of `old`; some flags are read only when their section is enabled,
and a `uint32_t` is read back through `uint16_t`.

The two uses are `old` the default configuration, with the saved text, and `old` the
configuration itself, with the text for the UI.
-/

namespace RuuviGateway
namespace GwCfgJson

open CJson CString

variable {j : Json} {hide : Bool}

/-! ## Items that may be hidden -/

theorem copyStringVal_unlessHidden {n : Nat} [NeZero n] {name : String} {b : Buf n}
    (h : Has j (unlessHidden hide [(name, Buf.json b)]))
    (hno : hide = true → getObjectItem j name = none) (old : Buf n) :
    copyStringVal j name old = if hide then old else b := by
  cases hide with
  | true => exact copyStringVal_of_none (hno rfl) old
  | false => exact copyStringVal_of_chars (h.get List.mem_cons_self) old

/-- A secret of the union. -/
theorem copyStringTo_unlessHidden {name : String} {s : List Char}
    {set : List Char → HttpAuth → HttpAuth}
    (h : Has j (unlessHidden hide [(name, .string s)]))
    (hno : hide = true → getObjectItem j name = none) (old : HttpAuth) :
    copyStringTo j name set old = if hide then old else set s old := by
  cases hide with
  | true => simp [copyStringTo, hno rfl]
  | false => simp [copyStringTo, h.get List.mem_cons_self, getStringValue]

theorem copyStringTo_of_string {name : String} {s : List Char}
    {set : List Char → HttpAuth → HttpAuth} (h : getObjectItem j name = some (.string s))
    (old : HttpAuth) : copyStringTo j name set old = set s old := by
  simp [copyStringTo, h, getStringValue]

/-! ## Names of enumerations -/

theorem jsonWrapCopyStringVal_of_lit {name s : String} {n : Nat} [NeZero n]
    (h : getObjectItem j name = some (lit s)) :
    jsonWrapCopyStringVal j name n = some (snprintf n s.toList) := by
  simp [jsonWrapCopyStringVal, h, lit, getStringValue]

theorem parseHttpDataFormat_generated {f : HttpDataFormat}
    (h : getObjectItem j "http_data_format" = some (lit f.toStr)) (old : HttpDataFormat) :
    gwCfgJsonParseHttpDataFormat j old = f := by
  rw [gwCfgJsonParseHttpDataFormat, jsonWrapCopyStringVal_of_lit h]
  dsimp only
  cases f <;> decide

theorem parseHttpAuthType_generated {t : HttpAuthType}
    (h : getObjectItem j "http_auth" = some (lit t.toStr)) (old : HttpAuthType) :
    gwCfgJsonParseHttpAuthType j old = t := by
  rw [gwCfgJsonParseHttpAuthType, jsonWrapCopyStringVal_of_lit h]
  dsimp only
  cases t <;> decide

theorem parseMqttDataFormat_generated {f : MqttDataFormat}
    (h : getObjectItem j "mqtt_data_format" = some (lit f.toStr)) :
    gwCfgJsonParseMqttDataFormat j = f := by
  rw [gwCfgJsonParseMqttDataFormat, jsonWrapCopyStringVal_of_lit h]
  dsimp only
  cases f <;> decide

/-! ## Statistics -/

/-- The section of the statistics that is read back. -/
def HttpStat.restored (hide : Bool) (old c : HttpStat) : HttpStat := { c with
  httpStatPass := if hide then old.httpStatPass else c.httpStatPass
  httpStatUseSslClientCert :=
    if c.useHttpStat then c.httpStatUseSslClientCert else old.httpStatUseSslClientCert
  httpStatUseSslServerCert :=
    if c.useHttpStat then c.httpStatUseSslServerCert else old.httpStatUseSslServerCert }

theorem parseHttpStat_generated {c : HttpStat} (h : Has j (gwCfgJsonAddItemsHttpStat hide c))
    (hno : hide = true → getObjectItem j "http_stat_pass" = none) (old : HttpStat) :
    gwCfgJsonParseHttpStat j old = HttpStat.restored hide old c := by
  simp only [gwCfgJsonAddItemsHttpStat, has_append, has_cons, has_nil, and_true] at h
  obtain ⟨⟨⟨huse, hurl, huser⟩, hpass⟩, hclient, hserver⟩ := h
  simp only [gwCfgJsonParseHttpStat, HttpStat.restored, getBoolVal_of_bool huse,
    getBoolVal_of_bool hclient, getBoolVal_of_bool hserver, copyStringVal_of_chars hurl,
    copyStringVal_of_chars huser, copyStringVal_unlessHidden hpass hno]

/-! ## MQTT -/

/-- The MQTT section that is read back. -/
def Mqtt.restored (hide : Bool) (old c : Mqtt) : Mqtt := { c with
  mqttPass := if hide then old.mqttPass else c.mqttPass
  mqttSendingInterval := throughUint16 c.mqttSendingInterval
  useSslClientCert := if c.useMqtt then c.useSslClientCert else old.useSslClientCert
  useSslServerCert := if c.useMqtt then c.useSslServerCert else old.useSslServerCert }

/-- `b`, or the default `d` in the place of an empty string. -/
def orDefault {n : Nat} (d b : Buf n) : Buf n := if b.chars = [] then d else b

theorem orDefault_eq_self {n : Nat} {d b : Buf n} (h : b.chars = [] → d.chars = []) :
    orDefault d b = b := by
  unfold orDefault
  split
  · rename_i hb
    exact Buf.ext ((h hb).trans hb.symm)
  · rfl

theorem copyStringOrDefault_of_chars {n : Nat} [NeZero n] {name : String} {b : Buf n}
    (h : getObjectItem j name = some (.string b.chars)) (d old : Buf n) :
    copyStringOrDefault j name (some d) old = orDefault d b := by
  have hget : (jsonWrapCopyStringVal j name n).getD d = b := copyStringVal_of_chars h d
  simp only [copyStringOrDefault, Option.getD_some, hget, orDefault]

/-- Whatever the section `c` is, an empty prefix or client identifier is read back as the
default one. -/
theorem parseMqtt_generated_over [Components] {c : Mqtt}
    (h : Has j (gwCfgJsonAddItemsMqtt hide c))
    (hno : hide = true → getObjectItem j "mqtt_pass" = none) (d old : Mqtt) :
    gwCfgJsonParseMqtt (some d) j old = some { Mqtt.restored hide old c with
      mqttPrefix := orDefault d.mqttPrefix c.mqttPrefix
      mqttClientId := orDefault d.mqttClientId c.mqttClientId } := by
  simp only [gwCfgJsonAddItemsMqtt, has_append, has_cons, has_nil, and_true] at h
  obtain ⟨⟨⟨huse, hretained, htransport, hformat, hserver, hport, hinterval, hprefix, hid, huser⟩,
    hpass⟩, hclientCert, hserverCert⟩ := h
  simp only [gwCfgJsonParseMqtt, Mqtt.restored, Option.bind_eq_bind, Option.bind_some,
    Option.map_some, getBoolVal_of_bool huse, getBoolVal_of_bool hretained,
    getBoolVal_of_bool hclientCert, getBoolVal_of_bool hserverCert,
    copyStringVal_of_chars htransport, copyStringVal_of_chars hserver,
    copyStringVal_of_chars huser, parseMqttDataFormat_generated hformat,
    getUint16Val_of_number hport, getUint32Val_of_number hinterval,
    copyStringOrDefault_of_chars hprefix, copyStringOrDefault_of_chars hid,
    copyStringVal_unlessHidden hpass hno]

theorem parseMqtt_generated [Components] {d c : Mqtt}
    (h : Has j (gwCfgJsonAddItemsMqtt hide c))
    (hno : hide = true → getObjectItem j "mqtt_pass" = none) (hok : d.OkFor c) (old : Mqtt) :
    gwCfgJsonParseMqtt (some d) j old = some (Mqtt.restored hide old c) := by
  rw [parseMqtt_generated_over h hno, orDefault_eq_self hok.mqttPrefix,
    orDefault_eq_self hok.mqttClientId]
  rfl

/-! ## Credentials -/

/-- The credentials of a type that are read back over the union `old`. -/
def authRestored (hide : Bool) (old : HttpAuth) (authType : HttpAuthType) (auth : HttpAuth) :
    HttpAuth :=
  match authType with
  | .none => old
  | .basic =>
      let base := HttpAuth.setUser auth.user old
      if hide then base else base.setPassword auth.password
  | .bearer | .token | .apikey => if hide then old else HttpAuth.setToken auth.token old

/-- The strings of a type end inside their buffers. -/
def AuthFits (authType : HttpAuthType) (auth : HttpAuth) : Prop :=
  match authType with
  | .none => True
  | .basic => auth.BasicFits
  | .bearer | .token | .apikey => auth.token.length < 256

theorem HttpAuth.written_user {a : HttpAuth} (h : a.user.length < 51) :
    written 51 a.user = a.user :=
  written_eq_self (Mem.nul_notMem_read a 0) h

theorem HttpAuth.written_password {a : HttpAuth} (h : a.password.length < 51) :
    written 51 a.password = a.password :=
  written_eq_self (Mem.nul_notMem_read a 51) h

theorem HttpAuth.written_token {a : HttpAuth} (h : a.token.length < 256) :
    written 256 a.token = a.token :=
  written_eq_self (Mem.nul_notMem_read a 0) h

/-- Over any union the saved credentials are read back. -/
theorem authCmp_authRestored_saved {authType : HttpAuthType} {auth : HttpAuth}
    (h : AuthFits authType auth) (old : HttpAuth) :
    authCmp authType auth (authRestored false old authType auth) = true := by
  have htoken (h : auth.token.length < 256) :
      auth.token = (HttpAuth.setToken auth.token old).token := by
    rw [HttpAuth.token_setToken, HttpAuth.written_token h]
  cases authType with
  | none => rfl
  | basic =>
    have huser : (HttpAuth.setUser auth.user old).user = auth.user := by
      rw [HttpAuth.user_setUser, HttpAuth.written_user h.1]
    simp only [authCmp, authRestored, Bool.and_eq_true, beq_iff_eq, Bool.false_eq_true, if_false]
    refine ⟨?_, ?_⟩
    · rw [HttpAuth.user_setPassword _ (by rw [huser]; exact h.1), huser]
    · rw [HttpAuth.password_setPassword, HttpAuth.written_password h.2]
  | bearer => simpa [authCmp, authRestored] using htoken h
  | token => simpa [authCmp, authRestored] using htoken h
  | apikey => simpa [authCmp, authRestored] using htoken h

/-- Over the union itself, what the UI is given leaves the credentials as they are, unless a
user does not end inside its buffer. -/
theorem authCmp_authRestored_ui {authType : HttpAuthType} {auth : HttpAuth} :
    authCmp authType auth (authRestored true auth authType auth) = true ↔
      (authType = .basic → auth.user.length < 51) := by
  cases authType with
  | basic =>
    simp only [authCmp, authRestored, if_true, Bool.and_eq_true, beq_iff_eq, forall_const,
      HttpAuth.password_setUser, HttpAuth.user_setUser, and_true]
    constructor
    · intro h
      rw [h]
      exact written_length_lt (by omega) _
    · intro h
      exact (HttpAuth.written_user h).symm
  | none => simp [authCmp]
  | bearer => simp [authCmp, authRestored]
  | token => simp [authCmp, authRestored]
  | apikey => simp [authCmp, authRestored]

/-! ## The remote configuration -/

/-- The section of the remote configuration that is read back: the union is cleared when the
type is another one. -/
def Remote.restored (hide : Bool) (old c : Remote) : Remote := { c with
  auth := authRestored hide (if old.authType ≠ c.authType then Mem.zero 256 else old.auth)
    c.authType c.auth }

theorem parseRemoteAuth_generated {authType : HttpAuthType} {auth : HttpAuth}
    (h : Has j (gwCfgJsonAddItemsRemoteAuth hide authType auth))
    (hpass : hide = true → getObjectItem j "remote_cfg_auth_basic_pass" = none)
    (htoken : hide = true → getObjectItem j "remote_cfg_auth_bearer_token" = none)
    (hok : RemoteAuthOk authType auth) (oldType : HttpAuthType) (old : HttpAuth) :
    gwCfgJsonParseRemoteAuth j oldType old =
      (authType, authRestored hide (if oldType ≠ authType then Mem.zero 256 else old)
        authType auth) := by
  obtain ⟨htype, hitems⟩ := has_cons.mp h
  have hcopy := jsonWrapCopyStringVal_of_lit (n := 8) htype
  have hstr : remoteAuthTypeFromStr (snprintf 8 authType.toStr.toList).chars = authType := by
    cases authType with
    | none => decide
    | basic => decide
    | bearer => decide
    | token => exact hok.elim
    | apikey => exact hok.elim
  simp only [gwCfgJsonParseRemoteAuth, hcopy, hstr, authRestored, Prod.mk.injEq, true_and]
  cases authType with
  | none => rfl
  | basic =>
    obtain ⟨huser, hsecret⟩ := has_cons.mp hitems
    simp only [copyStringTo_of_string huser, copyStringTo_unlessHidden hsecret hpass]
  | bearer => simp only [copyStringTo_unlessHidden hitems htoken]
  | token => exact hok.elim
  | apikey => exact hok.elim

theorem parseRemote_generated {c : Remote} (h : Has j (gwCfgJsonAddItemsRemote hide c))
    (hpass : hide = true → getObjectItem j "remote_cfg_auth_basic_pass" = none)
    (htoken : hide = true → getObjectItem j "remote_cfg_auth_bearer_token" = none)
    (hok : RemoteAuthOk c.authType c.auth) (old : Remote) :
    gwCfgJsonParseRemote j old = some (Remote.restored hide old c) := by
  simp only [gwCfgJsonAddItemsRemote, has_append, has_cons, has_nil, and_true] at h
  obtain ⟨⟨⟨huse, hurl⟩, hauth⟩, hclient, hserver, hinterval⟩ := h
  simp only [gwCfgJsonParseRemote, Remote.restored, Option.bind_eq_bind, Option.bind_some,
    getBoolVal_of_bool huse, getBoolVal_of_bool hclient, getBoolVal_of_bool hserver,
    copyStringVal_of_chars hurl, getUint16Val_of_number hinterval,
    parseRemoteAuth_generated hauth hpass htoken hok]

theorem RemoteAuthOk.fits {authType : HttpAuthType} {auth : HttpAuth}
    (h : RemoteAuthOk authType auth) : AuthFits authType auth := by
  cases authType with
  | none => trivial
  | basic => exact h
  | bearer => exact h
  | token => exact h.elim
  | apikey => exact h.elim

/-- The whole section is read back, from the saved text over any section and from the text for
the UI over the section itself. -/
theorem remoteCmp_restored {old c : Remote} (hok : RemoteAuthOk c.authType c.auth)
    (hold : hide = true → old = c) : remoteCmp c (Remote.restored hide old c) = true := by
  have hauth : authCmp c.authType c.auth (Remote.restored hide old c).auth = true := by
    cases hide with
    | false => exact authCmp_authRestored_saved hok.fits _
    | true =>
      rw [hold rfl]
      simp only [Remote.restored, ne_eq, not_true_eq_false, if_false]
      refine authCmp_authRestored_ui.mpr fun hbasic => ?_
      have hfits := hok.fits
      rw [hbasic] at hfits
      exact hfits.1
  simp [remoteCmp, Remote.restored] at hauth ⊢
  exact hauth

/-! ## HTTP -/

theorem parseHttpAuth_generated {authType : HttpAuthType} {auth : HttpAuth}
    (h : Has j (gwCfgJsonAddItemsHttpCustomAuth hide authType auth))
    (hno : hide = true → ∀ name ∈ ["http_pass", "http_bearer_token", "http_api_key"],
      getObjectItem j name = none) (old : HttpAuth) :
    gwCfgJsonParseHttpAuth j authType old = authRestored hide old authType auth := by
  obtain ⟨-, hitems⟩ := has_cons.mp h
  cases authType with
  | none => rfl
  | basic =>
    obtain ⟨huser, hsecret⟩ := has_cons.mp hitems
    simp only [gwCfgJsonParseHttpAuth, authRestored, copyStringTo_of_string huser,
      copyStringTo_unlessHidden hsecret fun hh => hno hh _ (by simp)]
  | bearer => exact copyStringTo_unlessHidden hitems (fun hh => hno hh _ (by simp)) old
  | token => exact copyStringTo_unlessHidden hitems (fun hh => hno hh _ (by simp)) old
  | apikey => exact copyStringTo_unlessHidden hitems (fun hh => hno hh _ (by simp)) old

/-- The HTTP section that is read back from two flags and parameters: with the parameters of
older firmware the custom server is switched off. -/
def Http.restored (hide useHttpRuuvi useHttp : Bool) (old params : Http) : Http :=
  { params with
    useHttpRuuvi := useHttpRuuvi || useHttp && params.isRuuviDefault
    useHttp := useHttp && !params.isRuuviDefault
    auth := if useHttp then authRestored hide old.auth params.authType params.auth else old.auth
    httpPeriod := throughUint16 params.httpPeriod }

theorem parseHttp_generated [Components] {useHttpRuuvi useHttp : Bool} {params : Http}
    (h : Has j (httpItems hide useHttpRuuvi useHttp params))
    (hno : hide = true → ∀ name ∈ ["http_pass", "http_bearer_token", "http_api_key"],
      getObjectItem j name = none) (old : Http) :
    gwCfgJsonParseHttp j old = some (Http.restored hide useHttpRuuvi useHttp old params) := by
  simp only [httpItems, gwCfgJsonAddItemsHttpCustomParams, has_append, has_cons, has_nil,
    and_true] at h
  obtain ⟨⟨hruuvi, hcustom⟩, ⟨⟨hurl, hperiod, hformat⟩, hauth⟩, hclient, hserver, hpath, hquery,
    hheaders⟩ := h
  have htype := parseHttpAuthType_generated (has_cons.mp hauth).1 old.authType
  have hcreds := parseHttpAuth_generated hauth hno old.auth
  simp only [gwCfgJsonParseHttp, Http.restored, Option.bind_eq_bind, getBoolVal_of_bool hruuvi,
    getBoolVal_of_bool hcustom, getBoolVal_of_bool hpath, getBoolVal_of_bool hquery,
    getBoolVal_of_bool hheaders, getBoolVal_of_bool hclient, getBoolVal_of_bool hserver,
    copyStringVal_of_chars hurl, parseHttpDataFormat_generated hformat, htype, hcreds,
    getUint32Val_of_number hperiod, Option.bind_some]
  cases useHttp with
  | false => simp
  | true =>
    simp only [if_true, gwCfgJsonPatchHttpLegacyPreV114]
    by_cases hdef : params.isRuuviDefault = true
    · rw [if_pos (by exact hdef)]
      simp [hdef]
    · rw [if_neg (by exact hdef)]
      simp [hdef]

/-- The HTTP section that is read back. -/
def Http.generated (hide : Bool) (d old c : Http) : Http :=
  if c.writesDefault then Http.restored hide true true old d
  else Http.restored hide c.useHttpRuuvi c.useHttp old c

theorem parseHttp_generated_over [Components] {d c : Http}
    (h : Has j (gwCfgJsonAddItemsHttp hide d c))
    (hno : hide = true → ∀ name ∈ ["http_pass", "http_bearer_token", "http_api_key"],
      getObjectItem j name = none) (old : Http) :
    gwCfgJsonParseHttp j old = some (Http.generated hide d old c) := by
  unfold gwCfgJsonAddItemsHttp at h
  unfold Http.generated
  split at h <;> rename_i hw
  · rw [if_pos hw, parseHttp_generated h hno]
  · rw [if_neg hw, parseHttp_generated h hno]

/-! ## LAN authorization -/

section lanAuth

variable [Components]

/-- The section of LAN authorization that is read back: only a type with credentials has
them. -/
def LanAuth.restored (c : LanAuth) : LanAuth :=
  match c.lanAuthType with
  | .basic | .digest | .ruuvi | .default => c
  | .allow | .deny | .bearer =>
      { c with
        lanAuthUser := Buf.empty authUserSize
        lanAuthPass := Buf.empty authPassSize }

/-- The section that is read back over a default one: the type is the one that is named. -/
def LanAuth.readBack (d c : LanAuth) : LanAuth :=
  match d.shownType c with
  | .basic | .digest | .ruuvi => c
  | .default =>
      { c with
        lanAuthType := .default
        lanAuthUser := d.lanAuthUser
        lanAuthPass := d.lanAuthPass }
  | .allow | .deny | .bearer =>
      { c with
        lanAuthUser := Buf.empty authUserSize
        lanAuthPass := Buf.empty authPassSize }

/-- Only `lan_auth_ruuvi` with the default credentials goes by another name. -/
theorem LanAuth.shownType_eq {d c : LanAuth} (h : c.lanAuthType = .ruuvi →
    ¬ (d.lanAuthUser = c.lanAuthUser ∧ d.lanAuthPass = c.lanAuthPass)) :
    d.shownType c = c.lanAuthType := by
  unfold LanAuth.shownType
  rw [if_neg]
  rintro ⟨hruuvi, huser, hpass⟩
  exact h hruuvi ⟨huser.symm, hpass.symm⟩

theorem LanAuth.shownType_default {d c : LanAuth} (hruuvi : c.lanAuthType = .ruuvi)
    (huser : d.lanAuthUser = c.lanAuthUser) (hpass : d.lanAuthPass = c.lanAuthPass) :
    d.shownType c = .default := by
  unfold LanAuth.shownType
  rw [if_pos ⟨hruuvi, huser.symm, hpass.symm⟩]

/-- A name other than the default one is that of the type. -/
theorem LanAuth.lanAuthType_of_shownType {d c : LanAuth} {t : HttpServerAuthType}
    (h : d.shownType c = t) (ht : t ≠ .default) :
    c.lanAuthType = t ∧ (t = .ruuvi →
      ¬ (d.lanAuthUser = c.lanAuthUser ∧ d.lanAuthPass = c.lanAuthPass)) := by
  have hcreds : c.lanAuthType = .ruuvi →
      ¬ (d.lanAuthUser = c.lanAuthUser ∧ d.lanAuthPass = c.lanAuthPass) := by
    rintro hruuvi ⟨huser, hpass⟩
    exact ht (h.symm.trans (LanAuth.shownType_default hruuvi huser hpass))
  have htype : c.lanAuthType = t := (LanAuth.shownType_eq hcreds).symm.trans h
  exact ⟨htype, fun hr => hcreds (htype.trans hr)⟩

theorem LanAuth.OkFor.readBack {d c : LanAuth} (hok : d.OkFor c) :
    LanAuth.readBack d c = c.restored := by
  unfold LanAuth.readBack LanAuth.restored
  rw [LanAuth.shownType_eq hok.ruuvi]
  cases ht : c.lanAuthType
  case default =>
    obtain ⟨huser, hpass⟩ := hok.default ht
    simp only [← huser, ← hpass, ← ht]
  all_goals rfl

/-- Whatever the section `c` is, it is read back under the name that its type has. -/
theorem parseLanAuth_generated_over [LawfulComponents] {d old c : LanAuth}
    (h : Has j (gwCfgJsonAddItemsLanAuth hide d c))
    (hno : hide = true → ∀ name ∈ ["lan_auth_pass", "lan_auth_api_key", "lan_auth_api_key_rw"],
      getObjectItem j name = none)
    (hold : hide = true → old = c) :
    gwCfgJsonParseLanAuth (some d) j old = LanAuth.readBack d c := by
  simp only [gwCfgJsonAddItemsLanAuth, has_append, has_cons, has_nil, and_true] at h
  obtain ⟨⟨⟨htype, huser⟩, hpass⟩, hkeys⟩ := h
  have hcopy : jsonWrapCopyStringVal j "lan_auth_type" authTypeStrSize =
      some (snprintf authTypeStrSize (authTypeToStr (d.shownType c))) := by
    simp [jsonWrapCopyStringVal, htype, getStringValue]
  have hparsed : authTypeFromStr (snprintf authTypeStrSize
      (authTypeToStr (d.shownType c))).chars = d.shownType c :=
    LawfulComponents.authTypeFromStr_toStr (d.shownType c)
  have hkey : copyStringVal j "lan_auth_api_key" old.lanAuthApiKey = c.lanAuthApiKey := by
    cases hide with
    | true => rw [copyStringVal_of_none (hno rfl _ (by simp)), hold rfl]
    | false => exact copyStringVal_of_chars (has_cons.mp hkeys).1 _
  have hkeyRw : copyStringVal j "lan_auth_api_key_rw" old.lanAuthApiKeyRw =
      c.lanAuthApiKeyRw := by
    cases hide with
    | true => rw [copyStringVal_of_none (hno rfl _ (by simp)), hold rfl]
    | false => exact copyStringVal_of_chars (has_cons.mp (has_cons.mp hkeys).2).1 _
  have hsecret : c.lanAuthType.hasPassword = true →
      copyStringVal j "lan_auth_pass" old.lanAuthPass = c.lanAuthPass := by
    intro hhas
    cases hide with
    | true => rw [copyStringVal_of_none (hno rfl _ (by simp)), hold rfl]
    | false =>
      simp only [hhas, Bool.not_false, Bool.and_self, if_true] at hpass
      exact copyStringVal_of_chars (has_cons.mp hpass).1 _
  have hstored : gwCfgJsonPatchLanAuthDefault (some d)
      (gwCfgJsonParseLanAuthUserPassword (some d) j
        { old with lanAuthType := d.shownType c }) =
      { LanAuth.readBack d c with
        lanAuthApiKey := old.lanAuthApiKey
        lanAuthApiKeyRw := old.lanAuthApiKeyRw } := by
    cases ht : d.shownType c <;> simp only [gwCfgJsonParseLanAuthUserPassword, LanAuth.readBack,
      ht, gwCfgJsonPatchLanAuthDefault, copyStringVal_of_chars huser, Option.getD_some,
      false_and, if_false, true_and, reduceCtorEq]
    all_goals
      obtain ⟨hc, hne⟩ := LanAuth.lanAuthType_of_shownType ht (by simp)
      rw [hc] at hsecret
    case basic => rw [hsecret rfl, ← hc]
    case digest => rw [hsecret rfl, ← hc]
    case ruuvi => rw [hsecret rfl, if_neg (hne rfl), ← hc]
    all_goals rw [← hc]
  have hkeys : { LanAuth.readBack d c with
      lanAuthApiKey := c.lanAuthApiKey
      lanAuthApiKeyRw := c.lanAuthApiKeyRw } = LanAuth.readBack d c := by
    unfold LanAuth.readBack
    cases d.shownType c <;> rfl
  simp only [gwCfgJsonParseLanAuth, hcopy, hparsed, hstored, hkey, hkeyRw]
  exact hkeys

theorem parseLanAuth_generated [LawfulComponents] {d old c : LanAuth}
    (h : Has j (gwCfgJsonAddItemsLanAuth hide d c))
    (hno : hide = true → ∀ name ∈ ["lan_auth_pass", "lan_auth_api_key", "lan_auth_api_key_rw"],
      getObjectItem j name = none)
    (hok : d.OkFor c) (hold : hide = true → old = c) :
    gwCfgJsonParseLanAuth (some d) j old = c.restored :=
  (parseLanAuth_generated_over h hno hold).trans hok.readBack

end lanAuth

/-! ## The other sections -/

theorem parseAutoUpdate_generated {c : AutoUpdate} (h : Has j (gwCfgJsonAddItemsAutoUpdate c))
    (old : AutoUpdate) : gwCfgJsonParseAutoUpdate j old = some c := by
  simp only [gwCfgJsonAddItemsAutoUpdate, has_cons, has_nil, and_true] at h
  obtain ⟨hcycle, hdays, hfrom, hto, hoffset⟩ := h
  have hname : fromStr AutoUpdateCycle.toStr .regular [.regular, .betaTester, .manual]
      (snprintf 20 c.autoUpdateCycle.toStr.toList).chars = c.autoUpdateCycle := by
    cases c.autoUpdateCycle <;> decide
  simp only [gwCfgJsonParseAutoUpdate, Option.bind_eq_bind, Option.bind_some,
    getUint8Val_of_number hdays, getUint8Val_of_number hfrom, getUint8Val_of_number hto,
    getInt8Val_of_number hoffset, jsonWrapCopyStringVal_of_lit hcycle, hname]

theorem parseFilter_generated {c : Filter} (h : Has j (gwCfgJsonAddItemsFilter c))
    (old : Filter) : gwCfgJsonParseFilter j old = some c := by
  simp only [gwCfgJsonAddItemsFilter, has_cons, has_nil, and_true] at h
  simp only [gwCfgJsonParseFilter, Option.bind_eq_bind, Option.bind_some,
    getUint16Val_of_number h.1, getBoolVal_of_bool h.2]

/-- The NTP section that is read back. -/
def Ntp.restored (old c : Ntp) : Ntp :=
  if c.ntpUse && !c.ntpUseDhcp then c
  else { old with ntpUse := c.ntpUse, ntpUseDhcp := c.ntpUseDhcp }

theorem parseNtp_generated {c : Ntp} (h : Has j (gwCfgJsonAddItemsNtp c)) (hok : c.Ok)
    (old : Ntp) : gwCfgJsonParseNtp j old = Ntp.restored old c := by
  simp only [gwCfgJsonAddItemsNtp, has_cons, has_nil, and_true] at h
  obtain ⟨huse, hdhcp, h1, h2, h3, h4⟩ := h
  have hboth : (c.ntpUse && c.ntpUseDhcp) = c.ntpUseDhcp := by
    cases huse : c.ntpUse with
    | true => rfl
    | false => exact (hok huse).symm
  simp only [gwCfgJsonParseNtp, Ntp.restored, getBoolVal_of_bool huse, getBoolVal_of_bool hdhcp,
    copyStringVal_of_chars h1, copyStringVal_of_chars h2, copyStringVal_of_chars h3,
    copyStringVal_of_chars h4, hboth]

theorem parseScan_generated {d c : Scan} (h : Has j (gwCfgJsonAddItemsScan c))
    (hno : getObjectItem j "scan_extended_payload" = none) (old : Scan) :
    gwCfgJsonParseScan (some d) j old = if c.scanDefault then d else c := by
  simp only [gwCfgJsonAddItemsScan, has_cons, has_nil, and_true] at h
  obtain ⟨hcoded, h1m, h2m, h37, h38, h39, hdefault⟩ := h
  have hext : jsonWrapGetBoolVal j "scan_extended_payload" = none := by
    simp [jsonWrapGetBoolVal, hno]
  simp only [gwCfgJsonParseScan, getBoolVal_of_bool hcoded, getBoolVal_of_bool h1m,
    getBoolVal_of_bool h2m, getBoolVal_of_bool h37, getBoolVal_of_bool h38,
    getBoolVal_of_bool h39, getBoolVal_of_bool hdefault, hext, Option.getD_some,
    Option.isSome_none, Bool.false_and, Bool.false_eq_true, if_false]

/-- The Ethernet section that is read back. -/
def Eth.restored (old c : Eth) : Eth :=
  if c.useEth then
    if c.ethDhcp then { old with useEth := true, ethDhcp := true } else c
  else { old with useEth := false }

theorem parseEth_generated {c : Eth} (h : Has j (gwCfgJsonAddItemsEth c)) (old : Eth) :
    gwCfgJsonParseEth j old = Eth.restored old c := by
  simp only [gwCfgJsonAddItemsEth, has_cons, has_nil, and_true] at h
  obtain ⟨huse, hdhcp, hip, hmask, hgw, hdns1, hdns2⟩ := h
  simp only [gwCfgJsonParseEth, Eth.restored, getBoolVal_of_bool huse, getBoolVal_of_bool hdhcp,
    copyStringVal_of_chars hip, copyStringVal_of_chars hmask, copyStringVal_of_chars hgw,
    copyStringVal_of_chars hdns1, copyStringVal_of_chars hdns2]
  obtain ⟨useEth, ethDhcp, ip, mask, gw, dns1, dns2⟩ := c
  cases useEth <;> cases ethDhcp <;> rfl

section scanFilter

variable [Components] [LawfulComponents]

/-- The addresses are written into the list from the index `i` on. -/
theorem parseScanFilterList_generated (addrs : List MacAddr) (i : Nat)
    (list : Vector MacAddr 100) (h : i + addrs.length ≤ 100) :
    ∃ list', parseScanFilterList (addrs.map fun a => .string (macAddressToStr a)) i list =
        some list' ∧ (∀ k < i, list'[k]? = list[k]?) ∧
      ∀ k < addrs.length, list'[i + k]? = addrs[k]? := by
  induction addrs generalizing i list with
  | nil => exact ⟨list, rfl, fun _ _ => rfl, fun _ hk => absurd hk (by simp)⟩
  | cons a addrs ih =>
    have hi : i < 100 := by
      rw [List.length_cons] at h
      omega
    obtain ⟨list', hlist, hlow, hhigh⟩ := ih (i + 1) (list.set i a)
      (by rw [List.length_cons] at h; omega)
    refine ⟨list', ?_, ?_, ?_⟩
    · rw [List.map_cons, parseScanFilterList, dif_pos hi]
      simp only [getStringValue, LawfulComponents.macAddrFromStr_toStr]
      exact hlist
    · intro k hk
      rw [hlow k (by omega), Vector.getElem?_set_ne _ (Nat.ne_of_gt hk)]
    · intro k hk
      cases k with
      | zero =>
        rw [Nat.add_zero, hlow i (by omega)]
        simp [hi]
      | succ k =>
        have := hhigh k (by rw [List.length_cons] at hk; omega)
        rw [List.getElem?_cons_succ, ← this]
        congr 1
        omega

theorem parseScanFilter_generated {c : ScanFilter} (h : Has j (gwCfgJsonAddItemsScanFilter c))
    (hok : c.Ok) (old : ScanFilter) :
    ∃ r, gwCfgJsonParseScanFilter j old = some r ∧ scanFilterCmp c r = true := by
  simp only [gwCfgJsonAddItemsScanFilter, has_cons, has_nil, and_true] at h
  obtain ⟨hallow, hlist⟩ := h
  have hlen : (c.scanFilterList.toList.take c.scanFilterLength).length = c.scanFilterLength := by
    rw [List.length_take, Vector.length_toList]
    exact Nat.min_eq_left hok
  obtain ⟨list', hparse, -, hread⟩ := parseScanFilterList_generated
    (c.scanFilterList.toList.take c.scanFilterLength) 0 old.scanFilterList
    (by rw [hlen, Nat.zero_add]; exact hok)
  refine ⟨{ scanFilterAllowListed := c.scanFilterAllowListed
            scanFilterLength := c.scanFilterLength
            scanFilterList := list' }, ?_, ?_⟩
  · simp only [gwCfgJsonParseScanFilter, hlist, getBoolVal_of_bool hallow, arrayItems, hparse,
      Option.bind_eq_bind, Option.bind_some, List.length_map, hlen]
  · simp only [scanFilterCmp, BEq.rfl, Bool.true_and, List.all_eq_true, List.mem_range]
    intro k hk
    have := hread k (by rw [hlen]; exact hk)
    rw [Nat.zero_add, List.getElem?_take_of_lt hk] at this
    rw [this]
    simp

end scanFilter

/-! ## The whole section -/

/-- The names of the secrets that parsers ask for. -/
def secretNames : List String :=
  ["remote_cfg_auth_basic_pass", "remote_cfg_auth_bearer_token", "http_pass",
    "http_bearer_token", "http_api_key", "http_stat_pass", "mqtt_pass", "lan_auth_pass",
    "lan_auth_api_key", "lan_auth_api_key_rw"]

theorem secretNames_absent :
    ∀ name ∈ secretNames, foldCase name ∉ (deviceInfoNames ++ itemNames true).map foldCase := by
  decide +kernel

section cfg

variable [Components]

/-- The document `j` has the items of `c`, and neither hidden secrets nor a deprecated flag. -/
structure Holds (hide : Bool) (d : Ruuvi) (c : GwCfg) (j : Json) : Prop where
  has : Has j (gwCfgJsonAddItems hide d c)
  secrets : hide = true → ∀ name ∈ secretNames, getObjectItem j name = none
  extended : getObjectItem j "scan_extended_payload" = none

theorem holds_saving (d : Ruuvi) (c : GwCfg) :
    Holds false d c (gwCfgJsonGenerateForSaving d c) where
  has := has_saving d c
  secrets := fun h => absurd h (by simp)
  extended := absent_saving d c (by decide +kernel)

theorem holds_ui (d : Ruuvi) (info : DeviceInfo) (c : GwCfg) :
    Holds true d c (gwCfgJsonGenerateForUiClient d info c) where
  has := has_ui d info c
  secrets := fun _ name hname => absent_ui d info c (secretNames_absent name hname)
  extended := absent_ui d info c (by decide +kernel)

/-- What is read back of a configuration `c`, over `old`. -/
structure Ruuvi.Restored (hide : Bool) (d old c r : Ruuvi) : Prop where
  remote : remoteCmp c.remote r.remote = true
  http : r.http = Http.generated hide d.http old.http c.http
  httpStat : r.httpStat = HttpStat.restored hide old.httpStat c.httpStat
  mqtt : r.mqtt = Mqtt.restored hide old.mqtt c.mqtt
  lanAuth : r.lanAuth = c.lanAuth.restored
  autoUpdate : r.autoUpdate = c.autoUpdate
  ntp : r.ntp = Ntp.restored old.ntp c.ntp
  filter : r.filter = c.filter
  scan : r.scan = if c.scan.scanDefault then d.scan else c.scan
  scanFilter : scanFilterCmp c.scanFilter r.scanFilter = true
  coordinates : r.coordinates = c.coordinates
  fwUpdateUrl : r.fwUpdateUrl = c.fwUpdateUrl

theorem parseRuuvi_generated [LawfulComponents] {d : Ruuvi} (old : Ruuvi) {c : GwCfg}
    (hj : Holds hide d c j) (hok : c.ruuvi.Ok) (hfor : d.OkFor c.ruuvi)
    (hold : hide = true → old = c.ruuvi) :
    ∃ r, gwCfgJsonParseCjsonRuuviCfg (some d) j old = some r ∧
      Ruuvi.Restored hide d old c.ruuvi r := by
  have hno : ∀ name ∈ secretNames, hide = true → getObjectItem j name = none :=
    fun name hname hh => hj.secrets hh name hname
  have hall := hj.has
  simp only [gwCfgJsonAddItems, has_append, has_cons, has_nil, and_true] at hall
  obtain ⟨⟨⟨⟨⟨⟨⟨⟨⟨⟨⟨⟨-, -⟩, hremote⟩, hhttp⟩, hstat⟩, hmqtt⟩, hlan⟩, hupdate⟩, hntp⟩, hfilter⟩,
    hscan⟩, hscanFilter⟩, hcoordinates, hurl⟩ := hall
  have hhttp' : gwCfgJsonParseHttp j old.http =
      some (Http.generated hide d.http old.http c.ruuvi.http) := by
    refine parseHttp_generated_over hhttp (fun hh name hname => hno name ?_ hh) old.http
    simp only [List.mem_cons, List.not_mem_nil, or_false] at hname
    rcases hname with rfl | rfl | rfl <;> simp [secretNames]
  have hlan' : gwCfgJsonParseLanAuth (some d.lanAuth) j old.lanAuth = c.ruuvi.lanAuth.restored := by
    refine parseLanAuth_generated hlan (fun hh name hname => ?_) hfor.lanAuth
      fun hh => congrArg Ruuvi.lanAuth (hold hh)
    refine hno name ?_ hh
    simp only [List.mem_cons, List.not_mem_nil, or_false] at hname
    rcases hname with rfl | rfl | rfl <;> simp [secretNames]
  obtain ⟨scanFilter, hscanFilter', hcmp⟩ :=
    parseScanFilter_generated hscanFilter hok.scanFilter old.scanFilter
  refine ⟨{
      remote := Remote.restored hide old.remote c.ruuvi.remote
      http := Http.generated hide d.http old.http c.ruuvi.http
      httpStat := HttpStat.restored hide old.httpStat c.ruuvi.httpStat
      mqtt := Mqtt.restored hide old.mqtt c.ruuvi.mqtt
      lanAuth := c.ruuvi.lanAuth.restored
      autoUpdate := c.ruuvi.autoUpdate
      ntp := Ntp.restored old.ntp c.ruuvi.ntp
      filter := c.ruuvi.filter
      scan := if c.ruuvi.scan.scanDefault then d.scan else c.ruuvi.scan
      scanFilter
      coordinates := c.ruuvi.coordinates
      fwUpdateUrl := c.ruuvi.fwUpdateUrl }, ?_, ?_⟩
  · exact gwCfgJsonParseCjsonRuuviCfg_eq_some.mpr
      ⟨parseRemote_generated hremote (hno _ (by simp [secretNames]))
          (hno _ (by simp [secretNames])) hok.remote _,
        hhttp', parseHttpStat_generated hstat (hno _ (by simp [secretNames])) _,
        parseMqtt_generated hmqtt (hno _ (by simp [secretNames])) hfor.mqtt _, hlan',
        parseAutoUpdate_generated hupdate _, parseNtp_generated hntp hok.ntp _,
        parseFilter_generated hfilter _, parseScan_generated hscan hj.extended _, hscanFilter',
        copyStringVal_of_chars hcoordinates _, copyStringVal_of_chars hurl _⟩
  · exact {
      remote := remoteCmp_restored hok.remote fun hh => congrArg Ruuvi.remote (hold hh)
      http := rfl, httpStat := rfl, mqtt := rfl, lanAuth := rfl, autoUpdate := rfl, ntp := rfl
      filter := rfl, scan := rfl, scanFilter := hcmp, coordinates := rfl, fwUpdateUrl := rfl }

end cfg

end GwCfgJson
end RuuviGateway
