import RuuviGateway.GwCfgJson.CjsonWrap

/-!
# Parsing the configuration

The files `gw_cfg_json_parse*.c`.  A parser is given the document and the section as it was,
and a member that is missing leaves its field as it was.  Three parsers look at the default
configuration, `gw_cfg_default_get_*`; while the default configuration itself is parsed, in
`gw_cfg_default_init`, that is the section that is being written, and this is the argument
`none`.

The result `none` stands for a document on which the code leaves its memory: a getter of a
number that dereferences NULL, or more MAC addresses than `scan_filter_list` has room for.
-/

namespace RuuviGateway
namespace GwCfgJson

open CJson CString

/-! ## The names of enumerations -/

/-- The strings `GW_CFG_HTTP_DATA_FORMAT_STR_*`. -/
def HttpDataFormat.toStr : HttpDataFormat → String
  | .ruuvi => "ruuvi"
  | .ruuviRawAndDecoded => "ruuvi_raw_and_decoded"
  | .ruuviDecoded => "ruuvi_decoded"

/-- The strings `GW_CFG_MQTT_DATA_FORMAT_STR_*`. -/
def MqttDataFormat.toStr : MqttDataFormat → String
  | .ruuviRaw => "ruuvi_raw"
  | .ruuviRawAndDecoded => "ruuvi_raw_and_decoded"
  | .ruuviDecoded => "ruuvi_decoded"

/-- The strings `GW_CFG_HTTP_AUTH_TYPE_STR_*`, without the deprecated one. -/
def HttpAuthType.toStr : HttpAuthType → String
  | .none => "none"
  | .basic => "basic"
  | .bearer => "bearer"
  | .token => "token"
  | .apikey => "api_key"

/-- The strings `AUTO_UPDATE_CYCLE_TYPE_STR_*`. -/
def AutoUpdateCycle.toStr : AutoUpdateCycle → String
  | .regular => "regular"
  | .betaTester => "beta"
  | .manual => "manual"

/-- The value among `values` whose name is `s`, or else `unknown`. -/
def fromStr {α : Type} (toStr : α → String) (unknown : α) (values : List α) (s : List Char) : α :=
  (values.find? fun v => s == (toStr v).toList).getD unknown

/-! ## HTTP -/

/-- `RUUVI_GATEWAY_HTTP_DEFAULT_URL`. -/
def ruuviGatewayHttpDefaultUrl : String := "https://network.ruuvi.com/record"

/-- A string of the document is copied into a member of the union. -/
def copyStringTo (j : Json) (name : String) (set : List Char → HttpAuth → HttpAuth)
    (auth : HttpAuth) : HttpAuth :=
  match (getObjectItem j name).bind getStringValue with
  | some s => set s auth
  | none => auth

/-- `gw_cfg_json_parse_http_data_format`. -/
def gwCfgJsonParseHttpDataFormat (j : Json) (old : HttpDataFormat) : HttpDataFormat :=
  match jsonWrapCopyStringVal j "http_data_format" 22 with
  | none => old
  | some s =>
      fromStr HttpDataFormat.toStr .ruuvi [.ruuvi, .ruuviRawAndDecoded, .ruuviDecoded] s.chars

/-- `gw_cfg_json_parse_http_auth_type`. -/
def gwCfgJsonParseHttpAuthType (j : Json) (old : HttpAuthType) : HttpAuthType :=
  match jsonWrapCopyStringVal j "http_auth" 8 with
  | none => old
  | some s => fromStr HttpAuthType.toStr .none [.none, .basic, .bearer, .token, .apikey] s.chars

/-- `gw_cfg_json_parse_http_auth`. -/
def gwCfgJsonParseHttpAuth (j : Json) (authType : HttpAuthType) (auth : HttpAuth) : HttpAuth :=
  match authType with
  | .none => auth
  | .basic =>
      copyStringTo j "http_pass" HttpAuth.setPassword
        (copyStringTo j "http_user" HttpAuth.setUser auth)
  | .bearer => copyStringTo j "http_bearer_token" HttpAuth.setToken auth
  | .token => copyStringTo j "http_api_key" HttpAuth.setToken auth
  | .apikey => copyStringTo j "http_api_key" HttpAuth.setToken auth

/-- The settings by which older firmware posted to the Ruuvi cloud. -/
def Http.isRuuviDefault (h : Http) : Bool :=
  h.dataFormat == .ruuvi && h.authType == .none &&
    h.httpUrl.chars == ruuviGatewayHttpDefaultUrl.toList

/-- `gw_cfg_json_patch_http_legacy_pre_v1_14`. -/
def gwCfgJsonPatchHttpLegacyPreV114 (h : Http) : Http :=
  if h.isRuuviDefault then { h with useHttpRuuvi := true, useHttp := false } else h

/-- `gw_cfg_json_parse_http`. -/
def gwCfgJsonParseHttp [Components] (j : Json) (h : Http) : Option Http := do
  let h : Http := { h with
    useHttpRuuvi := getBoolVal j "use_http_ruuvi" h.useHttpRuuvi
    useHttp := getBoolVal j "use_http" h.useHttp
    dataFormat := gwCfgJsonParseHttpDataFormat j h.dataFormat
    authType := gwCfgJsonParseHttpAuthType j h.authType
    httpUrl := copyStringVal j "http_url" h.httpUrl }
  let h := if h.useHttp then
      gwCfgJsonPatchHttpLegacyPreV114
        { h with auth := gwCfgJsonParseHttpAuth j h.authType h.auth }
    else h
  let httpPeriod ← getUint32Val j "http_period" h.httpPeriod
  some { h with
    httpPeriod
    httpUseExtraHttpPath := getBoolVal j "http_use_extra_http_path" h.httpUseExtraHttpPath
    httpUseExtraHttpQuery := getBoolVal j "http_use_extra_http_query" h.httpUseExtraHttpQuery
    httpUseExtraHttpHeaders :=
      getBoolVal j "http_use_extra_http_headers" h.httpUseExtraHttpHeaders
    httpUseSslClientCert := getBoolVal j "http_use_ssl_client_cert" h.httpUseSslClientCert
    httpUseSslServerCert := getBoolVal j "http_use_ssl_server_cert" h.httpUseSslServerCert }

/-- `gw_cfg_json_parse_http_stat`. -/
def gwCfgJsonParseHttpStat (j : Json) (s : HttpStat) : HttpStat :=
  let useHttpStat := getBoolVal j "use_http_stat" s.useHttpStat
  { useHttpStat
    httpStatUrl := copyStringVal j "http_stat_url" s.httpStatUrl
    httpStatUser := copyStringVal j "http_stat_user" s.httpStatUser
    httpStatPass := copyStringVal j "http_stat_pass" s.httpStatPass
    httpStatUseSslClientCert :=
      if useHttpStat then getBoolVal j "http_stat_use_ssl_client_cert" s.httpStatUseSslClientCert
      else s.httpStatUseSslClientCert
    httpStatUseSslServerCert :=
      if useHttpStat then getBoolVal j "http_stat_use_ssl_server_cert" s.httpStatUseSslServerCert
      else s.httpStatUseSslServerCert }

/-! ## The remote configuration -/

/-- The types of authorization that `gw_cfg_json_parse_remote` knows; the deprecated name of
`none` falls under the unknown ones, which are `none` as well. -/
def remoteAuthTypeFromStr : List Char → HttpAuthType :=
  fromStr HttpAuthType.toStr .none [.none, .basic, .bearer]

/-- `gw_cfg_json_parse_remote`: the authorization.  If its type changes, the union is
cleared. -/
def gwCfgJsonParseRemoteAuth (j : Json) (authType : HttpAuthType) (auth : HttpAuth) :
    HttpAuthType × HttpAuth :=
  match jsonWrapCopyStringVal j "remote_cfg_auth_type" 8 with
  | none => (authType, auth)
  | some s =>
      let new := remoteAuthTypeFromStr s.chars
      let auth := if authType ≠ new then Mem.zero 256 else auth
      (new, match new with
        | .basic =>
            copyStringTo j "remote_cfg_auth_basic_pass" HttpAuth.setPassword
              (copyStringTo j "remote_cfg_auth_basic_user" HttpAuth.setUser auth)
        | .bearer => copyStringTo j "remote_cfg_auth_bearer_token" HttpAuth.setToken auth
        | .none | .token | .apikey => auth)

/-- `gw_cfg_json_parse_remote`. -/
def gwCfgJsonParseRemote (j : Json) (r : Remote) : Option Remote := do
  let refreshIntervalMinutes ←
    getUint16Val j "remote_cfg_refresh_interval_minutes" r.refreshIntervalMinutes
  some {
    useRemoteCfg := getBoolVal j "remote_cfg_use" r.useRemoteCfg
    url := copyStringVal j "remote_cfg_url" r.url
    authType := (gwCfgJsonParseRemoteAuth j r.authType r.auth).1
    auth := (gwCfgJsonParseRemoteAuth j r.authType r.auth).2
    useSslClientCert := getBoolVal j "remote_cfg_use_ssl_client_cert" r.useSslClientCert
    useSslServerCert := getBoolVal j "remote_cfg_use_ssl_server_cert" r.useSslServerCert
    refreshIntervalMinutes }

/-! ## MQTT -/

/-- `gw_cfg_json_parse_mqtt_data_format`. -/
def gwCfgJsonParseMqttDataFormat (j : Json) : MqttDataFormat :=
  match jsonWrapCopyStringVal j "mqtt_data_format" 22 with
  | none => .ruuviRaw
  | some s =>
      fromStr MqttDataFormat.toStr .ruuviRaw [.ruuviRaw, .ruuviRawAndDecoded, .ruuviDecoded] s.chars

/-- A string for which the default is taken if it is missing or empty. -/
def copyStringOrDefault {n : Nat} [NeZero n] (j : Json) (name : String) (dflt : Option (Buf n))
    (old : Buf n) : Buf n :=
  let s := (jsonWrapCopyStringVal j name n).getD (dflt.getD old)
  if s.chars = [] then dflt.getD s else s

/-- `gw_cfg_json_parse_mqtt`. -/
def gwCfgJsonParseMqtt [Components] (dflt : Option Mqtt) (j : Json) (m : Mqtt) : Option Mqtt := do
  let useMqtt := getBoolVal j "use_mqtt" m.useMqtt
  let mqttPort ← getUint16Val j "mqtt_port" m.mqttPort
  let mqttSendingInterval ← getUint32Val j "mqtt_sending_interval" m.mqttSendingInterval
  some {
    useMqtt
    mqttDisableRetainedMessages :=
      getBoolVal j "mqtt_disable_retained_messages" m.mqttDisableRetainedMessages
    mqttTransport := copyStringVal j "mqtt_transport" m.mqttTransport
    mqttDataFormat := gwCfgJsonParseMqttDataFormat j
    mqttServer := copyStringVal j "mqtt_server" m.mqttServer
    mqttPort
    mqttSendingInterval
    mqttPrefix := copyStringOrDefault j "mqtt_prefix" (dflt.map Mqtt.mqttPrefix) m.mqttPrefix
    mqttClientId :=
      copyStringOrDefault j "mqtt_client_id" (dflt.map Mqtt.mqttClientId) m.mqttClientId
    mqttUser := copyStringVal j "mqtt_user" m.mqttUser
    mqttPass := copyStringVal j "mqtt_pass" m.mqttPass
    useSslClientCert :=
      if useMqtt then getBoolVal j "mqtt_use_ssl_client_cert" m.useSslClientCert
      else m.useSslClientCert
    useSslServerCert :=
      if useMqtt then getBoolVal j "mqtt_use_ssl_server_cert" m.useSslServerCert
      else m.useSslServerCert }

/-! ## LAN authorization -/

section lanAuth

variable [Components]

/-- The user and the password that a type of authorization is stored with. -/
def gwCfgJsonParseLanAuthUserPassword (dflt : Option LanAuth) (j : Json) (l : LanAuth) :
    LanAuth :=
  match l.lanAuthType with
  | .basic | .digest | .ruuvi =>
      { l with
        lanAuthUser := copyStringVal j "lan_auth_user" l.lanAuthUser
        lanAuthPass := copyStringVal j "lan_auth_pass" l.lanAuthPass }
  | .default =>
      { l with
        lanAuthUser := (dflt.getD l).lanAuthUser
        lanAuthPass := (dflt.getD l).lanAuthPass }
  | .allow | .deny | .bearer =>
      { l with
        lanAuthUser := Buf.empty authUserSize
        lanAuthPass := Buf.empty authPassSize }

/-- `lan_auth_ruuvi` with the default user and password is `lan_auth_default`. -/
def gwCfgJsonPatchLanAuthDefault (dflt : Option LanAuth) (l : LanAuth) : LanAuth :=
  if l.lanAuthType = .ruuvi ∧ (dflt.getD l).lanAuthUser = l.lanAuthUser ∧
      (dflt.getD l).lanAuthPass = l.lanAuthPass then
    { l with lanAuthType := .default }
  else l

/-- `gw_cfg_json_parse_lan_auth`. -/
def gwCfgJsonParseLanAuth (dflt : Option LanAuth) (j : Json) (l : LanAuth) : LanAuth :=
  let l := match jsonWrapCopyStringVal j "lan_auth_type" authTypeStrSize with
    | none => l
    | some s =>
        gwCfgJsonPatchLanAuthDefault dflt
          (gwCfgJsonParseLanAuthUserPassword dflt j
            { l with lanAuthType := authTypeFromStr s.chars })
  { l with
    lanAuthApiKey := copyStringVal j "lan_auth_api_key" l.lanAuthApiKey
    lanAuthApiKeyRw := copyStringVal j "lan_auth_api_key_rw" l.lanAuthApiKeyRw }

end lanAuth

/-! ## The other sections -/

/-- `gw_cfg_json_parse_auto_update`. -/
def gwCfgJsonParseAutoUpdate (j : Json) (a : AutoUpdate) : Option AutoUpdate := do
  let autoUpdateWeekdaysBitmask ←
    getUint8Val j "auto_update_weekdays_bitmask" a.autoUpdateWeekdaysBitmask
  let autoUpdateIntervalFrom ← getUint8Val j "auto_update_interval_from" a.autoUpdateIntervalFrom
  let autoUpdateIntervalTo ← getUint8Val j "auto_update_interval_to" a.autoUpdateIntervalTo
  let autoUpdateTzOffsetHours ←
    getInt8Val j "auto_update_tz_offset_hours" a.autoUpdateTzOffsetHours
  some {
    autoUpdateCycle :=
      match jsonWrapCopyStringVal j "auto_update_cycle" 20 with
      | none => a.autoUpdateCycle
      | some s => fromStr AutoUpdateCycle.toStr .regular [.regular, .betaTester, .manual] s.chars
    autoUpdateWeekdaysBitmask
    autoUpdateIntervalFrom
    autoUpdateIntervalTo
    autoUpdateTzOffsetHours }

/-- `gw_cfg_json_parse_ntp`. -/
def gwCfgJsonParseNtp (j : Json) (n : Ntp) : Ntp :=
  let ntpUse := getBoolVal j "ntp_use" n.ntpUse
  let ntpUseDhcp := ntpUse && getBoolVal j "ntp_use_dhcp" n.ntpUseDhcp
  if ntpUse && !ntpUseDhcp then
    { ntpUse
      ntpUseDhcp
      ntpServer1 := copyStringVal j "ntp_server1" n.ntpServer1
      ntpServer2 := copyStringVal j "ntp_server2" n.ntpServer2
      ntpServer3 := copyStringVal j "ntp_server3" n.ntpServer3
      ntpServer4 := copyStringVal j "ntp_server4" n.ntpServer4 }
  else { n with ntpUse, ntpUseDhcp }

/-- `gw_cfg_json_parse_filter`. -/
def gwCfgJsonParseFilter (j : Json) (f : Filter) : Option Filter := do
  let companyId ← getUint16Val j "company_id" f.companyId
  some {
    companyId
    companyUseFiltering := getBoolVal j "company_use_filtering" f.companyUseFiltering }

/-- The default for a scan that is to be the default one: all fields but `scan_default`. -/
def Scan.withDefault (dflt : Option Scan) (s : Scan) : Scan :=
  { dflt.getD s with scanDefault := s.scanDefault }

/-- All channels and both uncoded PHYs are scanned. -/
def Scan.isFull (s : Scan) : Bool :=
  !s.scanCodedPhy && s.scan1mbitPhy && s.scan2mbitPhy && s.scanChannel37 && s.scanChannel38 &&
    s.scanChannel39

/-- `gw_cfg_json_parse_scan`. -/
def gwCfgJsonParseScan (dflt : Option Scan) (j : Json) (s : Scan) : Scan :=
  let scanDefault := getBoolVal j "scan_default" s.scanDefault
  let s := { s with scanDefault }
  if scanDefault then dflt.getD s
  else
    -- the deprecated name of `scan_2mbit_phy`
    let extendedPayload := jsonWrapGetBoolVal j "scan_extended_payload"
    let s : Scan := { s with
      scanCodedPhy := getBoolVal j "scan_coded_phy" s.scanCodedPhy
      scan1mbitPhy := getBoolVal j "scan_1mbit_phy" s.scan1mbitPhy
      scan2mbitPhy := getBoolVal j "scan_2mbit_phy" (extendedPayload.getD s.scan2mbitPhy)
      scanChannel37 := getBoolVal j "scan_channel_37" s.scanChannel37
      scanChannel38 := getBoolVal j "scan_channel_38" s.scanChannel38
      scanChannel39 := getBoolVal j "scan_channel_39" s.scanChannel39 }
    if extendedPayload.isSome && (jsonWrapGetBoolVal j "scan_default").isNone then
      if s.isFull then Scan.withDefault dflt { s with scanDefault := true }
      else { s with scanDefault := false }
    else s

section scanFilter

variable [Components]

/-- The loop of `gw_cfg_json_parse_scan_filter`, from the element `i` on. -/
def parseScanFilterList : List Json → Nat → Vector MacAddr 100 → Option (Vector MacAddr 100)
  | [], _, list => some list
  | item :: items, i, list =>
      if h : i < 100 then
        parseScanFilterList items (i + 1)
          (list.set i (macAddrFromStr (getStringValue item) list[i]))
      else none

/-- `gw_cfg_json_parse_scan_filter`. -/
def gwCfgJsonParseScanFilter (j : Json) (f : ScanFilter) : Option ScanFilter :=
  let scanFilterAllowListed :=
    getBoolVal j "scan_filter_allow_listed" f.scanFilterAllowListed
  match getObjectItem j "scan_filter_list" with
  | none => some { f with scanFilterAllowListed }
  | some v => do
      let scanFilterList ← parseScanFilterList (arrayItems v) 0 f.scanFilterList
      some { scanFilterAllowListed, scanFilterLength := (arrayItems v).length, scanFilterList }

end scanFilter

/-- `gw_cfg_json_parse_eth`. -/
def gwCfgJsonParseEth (j : Json) (e : Eth) : Eth :=
  let useEth := getBoolVal j "use_eth" e.useEth
  if useEth then
    let ethDhcp := getBoolVal j "eth_dhcp" e.ethDhcp
    if !ethDhcp then
      { useEth
        ethDhcp
        ethStaticIp := copyStringVal j "eth_static_ip" e.ethStaticIp
        ethNetmask := copyStringVal j "eth_netmask" e.ethNetmask
        ethGw := copyStringVal j "eth_gw" e.ethGw
        ethDns1 := copyStringVal j "eth_dns1" e.ethDns1
        ethDns2 := copyStringVal j "eth_dns2" e.ethDns2 }
    else { e with useEth, ethDhcp }
  else { e with useEth }

/-- `gw_cfg_json_parse_wifi_ap_config`. -/
def gwCfgJsonParseWifiApConfig (j : Json) (w : WifiAp) : Option WifiAp := do
  let channel ← getUint8Val j "channel" w.channel
  some { w with
    password := copyStringVal j "password" w.password
    channel := if channel = 0 then 1 else channel }

/-- `gw_cfg_json_parse_wifi_sta_config`. -/
def gwCfgJsonParseWifiStaConfig (j : Json) (w : WifiSta) : WifiSta :=
  { w with
    ssid := copyStringVal j "ssid" w.ssid
    password := copyStringVal j "password" w.password }

/-! ## The configuration -/

section cfg

variable [Components]

/-- `gw_cfg_json_parse_cjson_ruuvi_cfg`. -/
def gwCfgJsonParseCjsonRuuviCfg (dflt : Option Ruuvi) (j : Json) (r : Ruuvi) : Option Ruuvi := do
  let remote ← gwCfgJsonParseRemote j r.remote
  let http ← gwCfgJsonParseHttp j r.http
  let mqtt ← gwCfgJsonParseMqtt (dflt.map Ruuvi.mqtt) j r.mqtt
  let autoUpdate ← gwCfgJsonParseAutoUpdate j r.autoUpdate
  let filter ← gwCfgJsonParseFilter j r.filter
  let scanFilter ← gwCfgJsonParseScanFilter j r.scanFilter
  some {
    remote
    http
    httpStat := gwCfgJsonParseHttpStat j r.httpStat
    mqtt
    lanAuth := gwCfgJsonParseLanAuth (dflt.map Ruuvi.lanAuth) j r.lanAuth
    autoUpdate
    ntp := gwCfgJsonParseNtp j r.ntp
    filter
    scan := gwCfgJsonParseScan (dflt.map Ruuvi.scan) j r.scan
    scanFilter
    coordinates := copyStringVal j "coordinates" r.coordinates
    fwUpdateUrl := copyStringVal j "fw_update_url" r.fwUpdateUrl }

/-- `gw_cfg_json_parse`, for a document that is JSON. -/
def gwCfgJsonParse (dflt : Option Ruuvi) (j : Json) (c : GwCfg) : Option GwCfg := do
  let ruuvi ← gwCfgJsonParseCjsonRuuviCfg dflt j c.ruuvi
  let wifiAp ← match getObjectItem j "wifi_ap_config" with
    | none => some c.wifiAp
    | some ap => gwCfgJsonParseWifiApConfig ap c.wifiAp
  some {
    ruuvi
    eth := gwCfgJsonParseEth j c.eth
    wifiAp
    wifiSta := match getObjectItem j "wifi_sta_config" with
      | none => c.wifiSta
      | some sta => gwCfgJsonParseWifiStaConfig sta c.wifiSta }

end cfg

end GwCfgJson
end RuuviGateway
