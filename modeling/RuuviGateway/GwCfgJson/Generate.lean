import RuuviGateway.GwCfgJson.Parse

/-!
# The JSON text of the configuration

The files `gw_cfg_json_generate*.c`.  What is generated is the tree that the text is printed
from, so the text is parsed back to it.  The flag `hide` is `flag_hide_passwords` or
`flag_hide_passwords_and_add_device_info`: it is true for the text that the UI is given, and
false for the one that is saved.

At the end stands `gw_cfg_default_init`, which parses a default configuration over the one that
is built in.
-/

namespace RuuviGateway
namespace GwCfgJson

open CJson CString

/-! ## Items -/

/-- `gw_cfg_json_add_string` for a literal. -/
def lit (s : String) : Json := .string s.toList

/-- `gw_cfg_json_add_string` for a buffer. -/
def Buf.json {n : Nat} (b : Buf n) : Json := .string b.chars

/-- `gw_cfg_json_add_number`. -/
def num (n : Int) : Json := .number n

/-- Items that are not added to the text for the UI. -/
def unlessHidden (hide : Bool) (items : List (String × Json)) : List (String × Json) :=
  if hide then [] else items

/-! ## The sections -/

/-- `gw_cfg_json_add_items_wifi_sta_config`: the object of that name. -/
def wifiStaConfigItems (hide : Bool) (w : WifiSta) : List (String × Json) :=
  ("ssid", Buf.json w.ssid) :: unlessHidden hide [("password", Buf.json w.password)]

/-- `gw_cfg_json_add_items_wifi_ap_config`: the object of that name. -/
def wifiApConfigItems (hide : Bool) (w : WifiAp) : List (String × Json) :=
  unlessHidden hide [("password", Buf.json w.password)] ++
    [("channel", num (if w.channel ≠ 0 then w.channel.toNat else 1))]

/-- `gw_cfg_json_add_items_wifi_sta_config` and `gw_cfg_json_add_items_wifi_ap_config`. -/
def gwCfgJsonAddItemsWifi (hide : Bool) (ap : WifiAp) (sta : WifiSta) : List (String × Json) :=
  [("wifi_sta_config", .object (wifiStaConfigItems hide sta)),
    ("wifi_ap_config", .object (wifiApConfigItems hide ap))]

/-- `gw_cfg_json_add_items_eth`. -/
def gwCfgJsonAddItemsEth (e : Eth) : List (String × Json) :=
  [("use_eth", .bool e.useEth),
    ("eth_dhcp", .bool e.ethDhcp),
    ("eth_static_ip", Buf.json e.ethStaticIp),
    ("eth_netmask", Buf.json e.ethNetmask),
    ("eth_gw", Buf.json e.ethGw),
    ("eth_dns1", Buf.json e.ethDns1),
    ("eth_dns2", Buf.json e.ethDns2)]

/-- `gw_cfg_json_add_items_remote_auth_*`. -/
def gwCfgJsonAddItemsRemoteAuth (hide : Bool) (authType : HttpAuthType) (auth : HttpAuth) :
    List (String × Json) :=
  ("remote_cfg_auth_type", lit authType.toStr) ::
    match authType with
    | .none => []
    | .basic =>
        ("remote_cfg_auth_basic_user", .string auth.user) ::
          unlessHidden hide [("remote_cfg_auth_basic_pass", .string auth.password)]
    | .bearer => unlessHidden hide [("remote_cfg_auth_bearer_token", .string auth.token)]
    | .token => unlessHidden hide [("remote_cfg_auth_token", .string auth.token)]
    | .apikey => unlessHidden hide [("remote_cfg_auth_apikey", .string auth.token)]

/-- `gw_cfg_json_add_items_remote`. -/
def gwCfgJsonAddItemsRemote (hide : Bool) (r : Remote) : List (String × Json) :=
  [("remote_cfg_use", .bool r.useRemoteCfg), ("remote_cfg_url", Buf.json r.url)] ++
    gwCfgJsonAddItemsRemoteAuth hide r.authType r.auth ++
    [("remote_cfg_use_ssl_client_cert", .bool r.useSslClientCert),
      ("remote_cfg_use_ssl_server_cert", .bool r.useSslServerCert),
      ("remote_cfg_refresh_interval_minutes", num r.refreshIntervalMinutes.toNat)]

/-- `gw_cfg_json_add_items_http_custom_auth_*`. -/
def gwCfgJsonAddItemsHttpCustomAuth (hide : Bool) (authType : HttpAuthType) (auth : HttpAuth) :
    List (String × Json) :=
  ("http_auth", lit authType.toStr) ::
    match authType with
    | .none => []
    | .basic =>
        ("http_user", .string auth.user) ::
          unlessHidden hide [("http_pass", .string auth.password)]
    | .bearer => unlessHidden hide [("http_bearer_token", .string auth.token)]
    | .token => unlessHidden hide [("http_api_key", .string auth.token)]
    | .apikey => unlessHidden hide [("http_api_key", .string auth.token)]

/-- `gw_cfg_json_add_items_http_custom_params`. -/
def gwCfgJsonAddItemsHttpCustomParams (hide : Bool) (h : Http) : List (String × Json) :=
  [("http_url", Buf.json h.httpUrl),
    ("http_period", num h.httpPeriod.toNat),
    ("http_data_format", lit h.dataFormat.toStr)] ++
    gwCfgJsonAddItemsHttpCustomAuth hide h.authType h.auth ++
    [("http_use_ssl_client_cert", .bool h.httpUseSslClientCert),
      ("http_use_ssl_server_cert", .bool h.httpUseSslServerCert),
      ("http_use_extra_http_path", .bool h.httpUseExtraHttpPath),
      ("http_use_extra_http_query", .bool h.httpUseExtraHttpQuery),
      ("http_use_extra_http_headers", .bool h.httpUseExtraHttpHeaders)]

/-- The flags and the parameters of an HTTP section. -/
def httpItems (hide useHttpRuuvi useHttp : Bool) (params : Http) : List (String × Json) :=
  [("use_http_ruuvi", .bool useHttpRuuvi), ("use_http", .bool useHttp)] ++
    gwCfgJsonAddItemsHttpCustomParams hide params

/-- The settings are written as those of older firmware that posts to the Ruuvi cloud. -/
def Http.writesDefault (h : Http) : Bool :=
  h.useHttpRuuvi && !h.useHttp || h.useHttp && h.isRuuviDefault

/-- `gw_cfg_json_add_items_http`; `dflt` is `gw_cfg_default_get_http`. -/
def gwCfgJsonAddItemsHttp (hide : Bool) (dflt h : Http) : List (String × Json) :=
  if h.writesDefault then httpItems hide true true dflt
  else httpItems hide h.useHttpRuuvi h.useHttp h

/-- `gw_cfg_json_add_items_http_stat`. -/
def gwCfgJsonAddItemsHttpStat (hide : Bool) (s : HttpStat) : List (String × Json) :=
  [("use_http_stat", .bool s.useHttpStat),
    ("http_stat_url", Buf.json s.httpStatUrl),
    ("http_stat_user", Buf.json s.httpStatUser)] ++
    unlessHidden hide [("http_stat_pass", Buf.json s.httpStatPass)] ++
    [("http_stat_use_ssl_client_cert", .bool s.httpStatUseSslClientCert),
      ("http_stat_use_ssl_server_cert", .bool s.httpStatUseSslServerCert)]

/-- `gw_cfg_json_add_items_mqtt`. -/
def gwCfgJsonAddItemsMqtt (hide : Bool) (m : Mqtt) : List (String × Json) :=
  [("use_mqtt", .bool m.useMqtt),
    ("mqtt_disable_retained_messages", .bool m.mqttDisableRetainedMessages),
    ("mqtt_transport", Buf.json m.mqttTransport),
    ("mqtt_data_format", lit m.mqttDataFormat.toStr),
    ("mqtt_server", Buf.json m.mqttServer),
    ("mqtt_port", num m.mqttPort.toNat),
    ("mqtt_sending_interval", num m.mqttSendingInterval.toNat),
    ("mqtt_prefix", Buf.json m.mqttPrefix),
    ("mqtt_client_id", Buf.json m.mqttClientId),
    ("mqtt_user", Buf.json m.mqttUser)] ++
    unlessHidden hide [("mqtt_pass", Buf.json m.mqttPass)] ++
    [("mqtt_use_ssl_client_cert", .bool m.useSslClientCert),
      ("mqtt_use_ssl_server_cert", .bool m.useSslServerCert)]

section lanAuth

variable [Components]

/-- `gw_cfg_auth_type_to_str`: the type that is named. -/
def LanAuth.shownType (dflt l : LanAuth) : HttpServerAuthType :=
  if l.lanAuthType = .ruuvi ∧ l.lanAuthUser = dflt.lanAuthUser ∧
      l.lanAuthPass = dflt.lanAuthPass then .default
  else l.lanAuthType

/-- The types that are saved with a password. -/
def HttpServerAuthType.hasPassword : HttpServerAuthType → Bool
  | .basic | .digest | .ruuvi => true
  | .default | .allow | .deny | .bearer => false

/-- `gw_cfg_json_add_items_lan_auth`; `dflt` is `gw_cfg_default_get_lan_auth`. -/
def gwCfgJsonAddItemsLanAuth (hide : Bool) (dflt l : LanAuth) : List (String × Json) :=
  [("lan_auth_type", .string (authTypeToStr (dflt.shownType l))),
    ("lan_auth_user", Buf.json l.lanAuthUser)] ++
    (if !hide && l.lanAuthType.hasPassword then [("lan_auth_pass", Buf.json l.lanAuthPass)]
      else []) ++
    if hide then
      [("lan_auth_api_key_use", .bool (!l.lanAuthApiKey.chars.isEmpty)),
        ("lan_auth_api_key_rw_use", .bool (!l.lanAuthApiKeyRw.chars.isEmpty))]
    else
      [("lan_auth_api_key", Buf.json l.lanAuthApiKey),
        ("lan_auth_api_key_rw", Buf.json l.lanAuthApiKeyRw)]

end lanAuth

/-- `gw_cfg_json_add_items_auto_update`. -/
def gwCfgJsonAddItemsAutoUpdate (a : AutoUpdate) : List (String × Json) :=
  [("auto_update_cycle", lit a.autoUpdateCycle.toStr),
    ("auto_update_weekdays_bitmask", num a.autoUpdateWeekdaysBitmask.toNat),
    ("auto_update_interval_from", num a.autoUpdateIntervalFrom.toNat),
    ("auto_update_interval_to", num a.autoUpdateIntervalTo.toNat),
    ("auto_update_tz_offset_hours", num a.autoUpdateTzOffsetHours.toInt)]

/-- `gw_cfg_json_add_items_ntp`. -/
def gwCfgJsonAddItemsNtp (n : Ntp) : List (String × Json) :=
  [("ntp_use", .bool n.ntpUse),
    ("ntp_use_dhcp", .bool n.ntpUseDhcp),
    ("ntp_server1", Buf.json n.ntpServer1),
    ("ntp_server2", Buf.json n.ntpServer2),
    ("ntp_server3", Buf.json n.ntpServer3),
    ("ntp_server4", Buf.json n.ntpServer4)]

/-- `gw_cfg_json_add_items_filter`. -/
def gwCfgJsonAddItemsFilter (f : Filter) : List (String × Json) :=
  [("company_id", num f.companyId.toNat),
    ("company_use_filtering", .bool f.companyUseFiltering)]

/-- `gw_cfg_json_add_items_scan`. -/
def gwCfgJsonAddItemsScan (s : Scan) : List (String × Json) :=
  [("scan_coded_phy", .bool s.scanCodedPhy),
    ("scan_1mbit_phy", .bool s.scan1mbitPhy),
    ("scan_2mbit_phy", .bool s.scan2mbitPhy),
    ("scan_channel_37", .bool s.scanChannel37),
    ("scan_channel_38", .bool s.scanChannel38),
    ("scan_channel_39", .bool s.scanChannel39),
    ("scan_default", .bool s.scanDefault)]

section cfg

variable [Components]

/-- `gw_cfg_json_add_items_scan_filter`. -/
def gwCfgJsonAddItemsScanFilter (f : ScanFilter) : List (String × Json) :=
  [("scan_filter_allow_listed", .bool f.scanFilterAllowListed),
    ("scan_filter_list", .array ((f.scanFilterList.toList.take f.scanFilterLength).map
      fun a => .string (macAddressToStr a)))]

/-! ## The configuration -/

/-- What `gw_cfg_json_add_items_device_info` reads: the versions, the MAC address and, when the
storage is ready, its files and whether they exist. -/
structure DeviceInfo where
  esp32FwVer : List Char
  nrf52FwVer : List Char
  nrf52MacAddr : List Char
  storage : Option (List (String × Bool))

/-- `gw_cfg_json_add_items_device_info`. -/
def gwCfgJsonAddItemsDeviceInfo (d : DeviceInfo) : List (String × Json) :=
  [("fw_ver", .string d.esp32FwVer),
    ("nrf52_fw_ver", .string d.nrf52FwVer),
    ("gw_mac", .string d.nrf52MacAddr),
    ("storage", .object (("storage_ready", .bool d.storage.isSome) ::
      (d.storage.getD []).map fun f => (f.1, .bool f.2)))]

/-- `gw_cfg_json_add_items`, after the device information. -/
def gwCfgJsonAddItems (hide : Bool) (dflt : Ruuvi) (c : GwCfg) : List (String × Json) :=
  gwCfgJsonAddItemsWifi hide c.wifiAp c.wifiSta ++
    gwCfgJsonAddItemsEth c.eth ++
    gwCfgJsonAddItemsRemote hide c.ruuvi.remote ++
    gwCfgJsonAddItemsHttp hide dflt.http c.ruuvi.http ++
    gwCfgJsonAddItemsHttpStat hide c.ruuvi.httpStat ++
    gwCfgJsonAddItemsMqtt hide c.ruuvi.mqtt ++
    gwCfgJsonAddItemsLanAuth hide dflt.lanAuth c.ruuvi.lanAuth ++
    gwCfgJsonAddItemsAutoUpdate c.ruuvi.autoUpdate ++
    gwCfgJsonAddItemsNtp c.ruuvi.ntp ++
    gwCfgJsonAddItemsFilter c.ruuvi.filter ++
    gwCfgJsonAddItemsScan c.ruuvi.scan ++
    gwCfgJsonAddItemsScanFilter c.ruuvi.scanFilter ++
    [("coordinates", Buf.json c.ruuvi.coordinates),
      ("fw_update_url", Buf.json c.ruuvi.fwUpdateUrl)]

/-- `gw_cfg_json_generate_for_saving`. -/
def gwCfgJsonGenerateForSaving (dflt : Ruuvi) (c : GwCfg) : Json :=
  .object (gwCfgJsonAddItems false dflt c)

/-- `gw_cfg_json_generate_for_ui_client`. -/
def gwCfgJsonGenerateForUiClient (dflt : Ruuvi) (d : DeviceInfo) (c : GwCfg) : Json :=
  .object (gwCfgJsonAddItemsDeviceInfo d ++ gwCfgJsonAddItems true dflt c)

/-! ## The default configuration -/

/-- `g_gateway_config_default_eth`. -/
def gatewayConfigDefaultEth : Eth where
  useEth := true
  ethDhcp := true
  ethStaticIp := .empty 17
  ethNetmask := .empty 17
  ethGw := .empty 17
  ethDns1 := .empty 17
  ethDns2 := .empty 17

/-- `g_gateway_config_default_ruuvi`. -/
def gatewayConfigDefaultRuuvi : Ruuvi where
  remote := {
    useRemoteCfg := false
    useSslClientCert := false
    useSslServerCert := false
    url := .empty 256
    authType := .none
    auth := .zero 256
    refreshIntervalMinutes := 0 }
  http := {
    useHttpRuuvi := true
    useHttp := false
    httpUseSslClientCert := false
    httpUseSslServerCert := false
    httpUseExtraHttpPath := false
    httpUseExtraHttpQuery := false
    httpUseExtraHttpHeaders := false
    httpUrl := snprintf 256 ruuviGatewayHttpDefaultUrl.toList
    httpPeriod := 10
    dataFormat := .ruuvi
    authType := .none
    auth := .zero 256 }
  httpStat := {
    useHttpStat := true
    httpStatUseSslClientCert := false
    httpStatUseSslServerCert := false
    httpStatUrl := snprintf 256 "https://network.ruuvi.com/status".toList
    httpStatUser := .empty 51
    httpStatPass := .empty 51 }
  mqtt := {
    useMqtt := false
    mqttDisableRetainedMessages := false
    useSslClientCert := false
    useSslServerCert := false
    mqttTransport := snprintf 8 "TCP".toList
    mqttDataFormat := .ruuviRaw
    mqttServer := snprintf 256 "test.mosquitto.org".toList
    mqttPort := 1883
    mqttSendingInterval := 0
    mqttPrefix := .empty 257
    mqttClientId := .empty 51
    mqttUser := .empty 129
    mqttPass := .empty 257 }
  lanAuth := {
    lanAuthType := .default
    lanAuthUser := snprintf _ "Admin".toList
    lanAuthPass := .empty _
    lanAuthApiKey := .empty _
    lanAuthApiKeyRw := .empty _ }
  autoUpdate := {
    autoUpdateCycle := .regular
    autoUpdateWeekdaysBitmask := 0x7F
    autoUpdateIntervalFrom := 0
    autoUpdateIntervalTo := 24
    autoUpdateTzOffsetHours := 3 }
  ntp := {
    ntpUse := true
    ntpUseDhcp := false
    ntpServer1 := snprintf 32 "time.google.com".toList
    ntpServer2 := snprintf 32 "time.cloudflare.com".toList
    ntpServer3 := snprintf 32 "pool.ntp.org".toList
    ntpServer4 := snprintf 32 "time.ruuvi.com".toList }
  filter := {
    companyId := 0x0499
    companyUseFiltering := true }
  scan := {
    scanCodedPhy := false
    scan1mbitPhy := true
    scan2mbitPhy := true
    scanChannel37 := true
    scanChannel38 := true
    scanChannel39 := true
    scanDefault := true }
  scanFilter := {
    scanFilterAllowListed := false
    scanFilterLength := 0
    scanFilterList := .replicate 100 0 }
  coordinates := .empty 64
  fwUpdateUrl := snprintf 256 "https://network.ruuvi.com/firmwareupdate".toList

/-- What `gw_cfg_default_init` is given or obtains: the configuration of
`wifi_manager_default_config_init`, the text of the MAC address, the MD5 digest of the default
password, and the document `gw_cfg_default` of the storage, if it can be read and is JSON. -/
structure DefaultInitParam where
  wifiAp : WifiAp
  wifiSta : WifiSta
  nrf52MacAddr : List Char
  lanAuthDefaultPassword : List Char
  gwCfgDefault : Option Json

/-- What `gw_cfg_default_init` sets after the default document has been read. -/
def setDeviceDefaults (p : DefaultInitParam) (c : GwCfg) : GwCfg :=
  { c with ruuvi := { c.ruuvi with
      mqtt := { c.ruuvi.mqtt with
        mqttPrefix := snprintf 257 ("ruuvi/".toList ++ str p.nrf52MacAddr ++ ['/'])
        mqttClientId := snprintf 51 p.nrf52MacAddr }
      lanAuth := { c.ruuvi.lanAuth with
        lanAuthUser := snprintf _ "Admin".toList
        lanAuthPass := snprintf _ p.lanAuthDefaultPassword } } }

/-- `gw_cfg_default_init`. -/
def gwCfgDefaultInit (p : DefaultInitParam) : Option GwCfg :=
  let c : GwCfg := {
    ruuvi := gatewayConfigDefaultRuuvi
    eth := gatewayConfigDefaultEth
    wifiAp := p.wifiAp
    wifiSta := p.wifiSta }
  (match p.gwCfgDefault with
    | none => some c
    | some j => gwCfgJsonParse none j c).map (setDeviceDefaults p)

end cfg

end GwCfgJson
end RuuviGateway
