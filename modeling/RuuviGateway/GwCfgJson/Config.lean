import RuuviGateway.Lib.CString

/-!
# The configuration

`gw_cfg_t`, as far as the JSON text of it and the comparisons of `gw_cfg_cmp.c` and `gw_cfg.c`
go.  A `char[n]` field is a `Buf n`; the credentials of HTTP and of the remote configuration
lie in a union, so they are memory, from which the code reads a string by the authorization
type it has.

The submodules that are not part of the repository stand in `Components`: the types of LAN
authorization and their names, the sizes of its strings, the text of MAC addresses and
`os_str_to_uint32_cptr`.  What is used of their documented behaviour is `LawfulComponents`.
-/

namespace RuuviGateway
namespace GwCfgJson

open CString

/-! ## Enumerations -/

/-- `http_server_auth_type_e`. -/
inductive HttpServerAuthType where
  | basic
  | digest
  | ruuvi
  | default
  | allow
  | deny
  | bearer
  deriving DecidableEq, Repr

/-- `gw_cfg_http_auth_type_e`. -/
inductive HttpAuthType where
  | none
  | basic
  | bearer
  | token
  | apikey
  deriving DecidableEq, Repr

/-- `gw_cfg_http_data_format_e`. -/
inductive HttpDataFormat where
  | ruuvi
  | ruuviRawAndDecoded
  | ruuviDecoded
  deriving DecidableEq, Repr

/-- `gw_cfg_mqtt_data_format_e`. -/
inductive MqttDataFormat where
  | ruuviRaw
  | ruuviRawAndDecoded
  | ruuviDecoded
  deriving DecidableEq, Repr

/-- `auto_update_cycle_type_e`. -/
inductive AutoUpdateCycle where
  | regular
  | betaTester
  | manual
  deriving DecidableEq, Repr

/-- `mac_address_bin_t`. -/
abbrev MacAddr := BitVec 48

/-! ## The submodules -/

/-- What the code uses of `esp32-wifi-manager` and `ruuvi.esp_wrappers.c`. -/
class Components where
  authTypeToStr : HttpServerAuthType → List Char
  authTypeFromStr : List Char → HttpServerAuthType
  /-- The size of `http_server_auth_type_str_t`. -/
  authTypeStrSize : Nat
  /-- The sizes of `http_server_auth_user_t`, `http_server_auth_pass_t` and
  `http_server_auth_api_key_t`. -/
  authUserSize : Nat
  authPassSize : Nat
  authApiKeySize : Nat
  sizes_pos : 0 < authTypeStrSize ∧ 0 < authUserSize ∧ 0 < authPassSize ∧ 0 < authApiKeySize
  macAddressToStr : MacAddr → List Char
  /-- `mac_addr_from_str`: what it leaves in the address, for a string that may be missing. -/
  macAddrFromStr : Option (List Char) → MacAddr → MacAddr
  /-- `os_str_to_uint32_cptr`: the number and the text after it, for a base. -/
  osStrToUint32 : List Char → Nat → UInt32 × List Char

export Components (authTypeToStr authTypeFromStr authTypeStrSize authUserSize authPassSize
  authApiKeySize macAddressToStr macAddrFromStr osStrToUint32)

/-- The name of a type of LAN authorization and the text of a MAC address are read back. -/
class LawfulComponents [Components] : Prop where
  authTypeFromStr_toStr : ∀ t, authTypeFromStr (written authTypeStrSize (authTypeToStr t)) = t
  macAddrFromStr_toStr : ∀ a old, macAddrFromStr (some (macAddressToStr a)) old = a

section sizes

variable [Components]

instance : NeZero authTypeStrSize := ⟨Nat.ne_of_gt Components.sizes_pos.1⟩
instance : NeZero authUserSize := ⟨Nat.ne_of_gt Components.sizes_pos.2.1⟩
instance : NeZero authPassSize := ⟨Nat.ne_of_gt Components.sizes_pos.2.2.1⟩
instance : NeZero authApiKeySize := ⟨Nat.ne_of_gt Components.sizes_pos.2.2.2⟩

end sizes

-- the buffers whose size is a number
instance neZero_8 : NeZero 8 := ⟨by decide⟩
instance neZero_17 : NeZero 17 := ⟨by decide⟩
instance neZero_20 : NeZero 20 := ⟨by decide⟩
instance neZero_32 : NeZero 32 := ⟨by decide⟩
instance neZero_51 : NeZero 51 := ⟨by decide⟩
instance neZero_64 : NeZero 64 := ⟨by decide⟩
instance neZero_129 : NeZero 129 := ⟨by decide⟩
instance neZero_256 : NeZero 256 := ⟨by decide⟩
instance neZero_257 : NeZero 257 := ⟨by decide⟩

/-! ## The credentials of HTTP -/

/-- `ruuvi_gw_cfg_http_auth_t`: `auth_basic` is a user of 51 bytes and a password of 51 bytes,
the other members are one string of 256 bytes. -/
abbrev HttpAuth := Mem 256

namespace HttpAuth

/-- `auth_basic.user.buf`. -/
def user (a : HttpAuth) : List Char := a.read 0

/-- `auth_basic.password.buf`. -/
def password (a : HttpAuth) : List Char := a.read 51

/-- `auth_bearer.token.buf`, `auth_token.token.buf` and `auth_apikey.api_key.buf`. -/
def token (a : HttpAuth) : List Char := a.read 0

def setUser (s : List Char) (a : HttpAuth) : HttpAuth := a.write 0 51 (by decide) s

def setPassword (s : List Char) (a : HttpAuth) : HttpAuth := a.write 51 51 (by decide) s

def setToken (s : List Char) (a : HttpAuth) : HttpAuth := a.write 0 256 (by decide) s

end HttpAuth

/-! ## The sections -/

/-- `ruuvi_gw_cfg_remote_t`. -/
structure Remote where
  useRemoteCfg : Bool
  useSslClientCert : Bool
  useSslServerCert : Bool
  url : Buf 256
  authType : HttpAuthType
  auth : HttpAuth
  refreshIntervalMinutes : UInt16
  deriving DecidableEq

/-- `ruuvi_gw_cfg_http_t`. -/
structure Http where
  useHttpRuuvi : Bool
  useHttp : Bool
  httpUseSslClientCert : Bool
  httpUseSslServerCert : Bool
  httpUseExtraHttpPath : Bool
  httpUseExtraHttpQuery : Bool
  httpUseExtraHttpHeaders : Bool
  httpUrl : Buf 256
  httpPeriod : UInt32
  dataFormat : HttpDataFormat
  authType : HttpAuthType
  auth : HttpAuth
  deriving DecidableEq

/-- `ruuvi_gw_cfg_http_stat_t`. -/
structure HttpStat where
  useHttpStat : Bool
  httpStatUseSslClientCert : Bool
  httpStatUseSslServerCert : Bool
  httpStatUrl : Buf 256
  httpStatUser : Buf 51
  httpStatPass : Buf 51
  deriving DecidableEq

/-- `ruuvi_gw_cfg_mqtt_t`. -/
structure Mqtt where
  useMqtt : Bool
  mqttDisableRetainedMessages : Bool
  useSslClientCert : Bool
  useSslServerCert : Bool
  mqttTransport : Buf 8
  mqttDataFormat : MqttDataFormat
  mqttServer : Buf 256
  mqttPort : UInt16
  mqttSendingInterval : UInt32
  mqttPrefix : Buf 257
  mqttClientId : Buf 51
  mqttUser : Buf 129
  mqttPass : Buf 257
  deriving DecidableEq

/-- `ruuvi_gw_cfg_lan_auth_t`. -/
structure LanAuth [Components] where
  lanAuthType : HttpServerAuthType
  lanAuthUser : Buf authUserSize
  lanAuthPass : Buf authPassSize
  lanAuthApiKey : Buf authApiKeySize
  lanAuthApiKeyRw : Buf authApiKeySize
  deriving DecidableEq

/-- `ruuvi_gw_cfg_auto_update_t`. -/
structure AutoUpdate where
  autoUpdateCycle : AutoUpdateCycle
  autoUpdateWeekdaysBitmask : UInt8
  autoUpdateIntervalFrom : UInt8
  autoUpdateIntervalTo : UInt8
  autoUpdateTzOffsetHours : Int8
  deriving DecidableEq

/-- `ruuvi_gw_cfg_ntp_t`. -/
structure Ntp where
  ntpUse : Bool
  ntpUseDhcp : Bool
  ntpServer1 : Buf 32
  ntpServer2 : Buf 32
  ntpServer3 : Buf 32
  ntpServer4 : Buf 32
  deriving DecidableEq

/-- `ruuvi_gw_cfg_filter_t`. -/
structure Filter where
  companyId : UInt16
  companyUseFiltering : Bool
  deriving DecidableEq

/-- `ruuvi_gw_cfg_scan_t`. -/
structure Scan where
  scanCodedPhy : Bool
  scan1mbitPhy : Bool
  scan2mbitPhy : Bool
  scanChannel37 : Bool
  scanChannel38 : Bool
  scanChannel39 : Bool
  scanDefault : Bool
  deriving DecidableEq

/-- `ruuvi_gw_cfg_scan_filter_t`. -/
structure ScanFilter where
  scanFilterAllowListed : Bool
  scanFilterLength : Nat
  scanFilterList : Vector MacAddr 100
  deriving DecidableEq

/-- `gw_cfg_ruuvi_t`. -/
structure Ruuvi [Components] where
  remote : Remote
  http : Http
  httpStat : HttpStat
  mqtt : Mqtt
  lanAuth : LanAuth
  autoUpdate : AutoUpdate
  ntp : Ntp
  filter : Filter
  scan : Scan
  scanFilter : ScanFilter
  coordinates : Buf 64
  fwUpdateUrl : Buf 256
  deriving DecidableEq

/-- `gw_cfg_eth_t`. -/
structure Eth where
  useEth : Bool
  ethDhcp : Bool
  ethStaticIp : Buf 17
  ethNetmask : Buf 17
  ethGw : Buf 17
  ethDns1 : Buf 17
  ethDns2 : Buf 17
  deriving DecidableEq

/-- `wifiman_config_ap_t`: `wifi_ap_config_t` and, from `apBandwidth` on, `wifi_settings_ap_t`. -/
structure WifiAp where
  ssid : List Char
  password : Buf 64
  ssidLen : Nat
  channel : UInt8
  authmode : Nat
  ssidHidden : Nat
  maxConnection : Nat
  beaconInterval : Nat
  pairwiseCipher : Nat
  ftmResponder : Bool
  apBandwidth : Nat
  apIp : List Char
  apGw : List Char
  apNetmask : List Char
  deriving DecidableEq

/-- `wifiman_config_sta_t`: `wifi_sta_config_t` and, from `staPowerSave` on,
`wifi_settings_sta_t`. -/
structure WifiSta where
  ssid : Buf 32
  password : Buf 64
  scanMethod : Nat
  bssidSet : Bool
  bssid : MacAddr
  channel : Nat
  listenInterval : Nat
  sortMethod : Nat
  thresholdRssi : Int
  thresholdAuthmode : Nat
  pmfCapable : Bool
  pmfRequired : Bool
  rmEnabled : Bool
  btmEnabled : Bool
  staPowerSave : Bool
  staStaticIp : Bool
  staticIp : BitVec 32
  staticNetmask : BitVec 32
  staticGw : BitVec 32
  deriving DecidableEq

/-- `gw_cfg_t`, without `device_info`. -/
structure GwCfg [Components] where
  ruuvi : Ruuvi
  eth : Eth
  wifiAp : WifiAp
  wifiSta : WifiSta
  deriving DecidableEq

/-! ## The comparisons

Each compares field by field, in the order of the code: strings by `strcmp`, addresses by
`memcmp`, the rest by `!=`. -/

/-- The credentials that are compared for a type of authorization. -/
def authCmp (authType : HttpAuthType) (a b : HttpAuth) : Bool :=
  match authType with
  | .none => true
  | .basic => a.user == b.user && a.password == b.password
  | .bearer | .token | .apikey => a.token == b.token

theorem authCmp_self (authType : HttpAuthType) (auth : HttpAuth) :
    authCmp authType auth auth = true := by
  cases authType <;> simp [authCmp]

/-- `ruuvi_gw_cfg_remote_cmp`. -/
def remoteCmp (a b : Remote) : Bool :=
  a.useRemoteCfg == b.useRemoteCfg && a.url == b.url && a.authType == b.authType &&
    authCmp a.authType a.auth b.auth &&
    a.refreshIntervalMinutes == b.refreshIntervalMinutes &&
    a.useSslClientCert == b.useSslClientCert && a.useSslServerCert == b.useSslServerCert

/-- `ruuvi_gw_cfg_http_cmp`. -/
def httpCmp (a b : Http) : Bool :=
  a.useHttpRuuvi == b.useHttpRuuvi && a.useHttp == b.useHttp &&
    a.httpUseSslClientCert == b.httpUseSslClientCert &&
    a.httpUseSslServerCert == b.httpUseSslServerCert &&
    a.httpUseExtraHttpPath == b.httpUseExtraHttpPath &&
    a.httpUseExtraHttpQuery == b.httpUseExtraHttpQuery &&
    a.httpUseExtraHttpHeaders == b.httpUseExtraHttpHeaders && a.httpUrl == b.httpUrl &&
    a.httpPeriod == b.httpPeriod && a.dataFormat == b.dataFormat && a.authType == b.authType &&
    authCmp a.authType a.auth b.auth

/-- `ruuvi_gw_cfg_http_stat_cmp`. -/
def httpStatCmp (a b : HttpStat) : Bool :=
  a.useHttpStat == b.useHttpStat && a.httpStatUseSslClientCert == b.httpStatUseSslClientCert &&
    a.httpStatUseSslServerCert == b.httpStatUseSslServerCert &&
    a.httpStatUrl == b.httpStatUrl && a.httpStatUser == b.httpStatUser &&
    a.httpStatPass == b.httpStatPass

/-- `ruuvi_gw_cfg_mqtt_cmp`. -/
def mqttCmp (a b : Mqtt) : Bool :=
  a.useMqtt == b.useMqtt && a.mqttDisableRetainedMessages == b.mqttDisableRetainedMessages &&
    a.mqttTransport == b.mqttTransport && a.mqttDataFormat == b.mqttDataFormat &&
    a.mqttServer == b.mqttServer && a.mqttPort == b.mqttPort &&
    a.mqttSendingInterval == b.mqttSendingInterval && a.mqttPrefix == b.mqttPrefix &&
    a.mqttClientId == b.mqttClientId && a.mqttUser == b.mqttUser && a.mqttPass == b.mqttPass &&
    a.useSslClientCert == b.useSslClientCert && a.useSslServerCert == b.useSslServerCert

/-- `ruuvi_gw_cfg_auto_update_cmp`. -/
def autoUpdateCmp (a b : AutoUpdate) : Bool :=
  a.autoUpdateCycle == b.autoUpdateCycle &&
    a.autoUpdateWeekdaysBitmask == b.autoUpdateWeekdaysBitmask &&
    a.autoUpdateIntervalFrom == b.autoUpdateIntervalFrom &&
    a.autoUpdateIntervalTo == b.autoUpdateIntervalTo &&
    a.autoUpdateTzOffsetHours == b.autoUpdateTzOffsetHours

/-- `ruuvi_gw_cfg_ntp_cmp`. -/
def ntpCmp (a b : Ntp) : Bool :=
  a.ntpUse == b.ntpUse && a.ntpUseDhcp == b.ntpUseDhcp && a.ntpServer1 == b.ntpServer1 &&
    a.ntpServer2 == b.ntpServer2 && a.ntpServer3 == b.ntpServer3 && a.ntpServer4 == b.ntpServer4

/-- `ruuvi_gw_cfg_filter_cmp`. -/
def filterCmp (a b : Filter) : Bool :=
  a.companyUseFiltering == b.companyUseFiltering && a.companyId == b.companyId

/-- `ruuvi_gw_cfg_scan_cmp`. -/
def scanCmp (a b : Scan) : Bool :=
  a.scanCodedPhy == b.scanCodedPhy && a.scan1mbitPhy == b.scan1mbitPhy &&
    a.scan2mbitPhy == b.scan2mbitPhy && a.scanChannel37 == b.scanChannel37 &&
    a.scanChannel38 == b.scanChannel38 && a.scanChannel39 == b.scanChannel39 &&
    a.scanDefault == b.scanDefault

/-- `ruuvi_gw_cfg_scan_filter_cmp`, which compares the addresses up to the length. -/
def scanFilterCmp (a b : ScanFilter) : Bool :=
  a.scanFilterAllowListed == b.scanFilterAllowListed &&
    a.scanFilterLength == b.scanFilterLength &&
    (List.range a.scanFilterLength).all fun i => a.scanFilterList[i]? == b.scanFilterList[i]?

/-- `gw_cfg_eth_cmp`. -/
def gwCfgEthCmp (a b : Eth) : Bool :=
  a.useEth == b.useEth && a.ethDhcp == b.ethDhcp && a.ethStaticIp == b.ethStaticIp &&
    a.ethNetmask == b.ethNetmask && a.ethGw == b.ethGw && a.ethDns1 == b.ethDns1 &&
    a.ethDns2 == b.ethDns2

/-- `wifiman_config_cmp_config_ap`, which passes over the cipher and the FTM responder. -/
def wifimanConfigCmpConfigAp (a b : WifiAp) : Bool :=
  a.ssid == b.ssid && a.password == b.password && a.ssidLen == b.ssidLen &&
    a.channel == b.channel && a.authmode == b.authmode && a.ssidHidden == b.ssidHidden &&
    a.maxConnection == b.maxConnection && a.beaconInterval == b.beaconInterval

/-- `wifiman_config_cmp_settings_ap`. -/
def wifimanConfigCmpSettingsAp (a b : WifiAp) : Bool :=
  a.apBandwidth == b.apBandwidth && a.apIp == b.apIp && a.apGw == b.apGw &&
    a.apNetmask == b.apNetmask

/-- `wifiman_config_ap_cmp`. -/
def wifimanConfigApCmp (a b : WifiAp) : Bool :=
  wifimanConfigCmpConfigAp a b && wifimanConfigCmpSettingsAp a b

/-- `wifiman_config_cmp_sta_config`, which passes over radio measurements and BSS transition
management. -/
def wifimanConfigCmpStaConfig (a b : WifiSta) : Bool :=
  a.ssid == b.ssid && a.password == b.password && a.scanMethod == b.scanMethod &&
    a.bssidSet == b.bssidSet && a.bssid == b.bssid && a.channel == b.channel &&
    a.listenInterval == b.listenInterval && a.sortMethod == b.sortMethod &&
    a.thresholdRssi == b.thresholdRssi && a.thresholdAuthmode == b.thresholdAuthmode &&
    a.pmfCapable == b.pmfCapable && a.pmfRequired == b.pmfRequired

/-- `wifiman_config_cmp_settings_sta`. -/
def wifimanConfigCmpSettingsSta (a b : WifiSta) : Bool :=
  a.staPowerSave == b.staPowerSave && a.staStaticIp == b.staStaticIp &&
    a.staticIp == b.staticIp && a.staticNetmask == b.staticNetmask && a.staticGw == b.staticGw

/-- `wifiman_config_sta_cmp`. -/
def wifimanConfigStaCmp (a b : WifiSta) : Bool :=
  wifimanConfigCmpStaConfig a b && wifimanConfigCmpSettingsSta a b

section cmp

variable [Components]

/-- `ruuvi_gw_cfg_lan_auth_cmp`. -/
def lanAuthCmp (a b : LanAuth) : Bool :=
  a.lanAuthType == b.lanAuthType && a.lanAuthUser == b.lanAuthUser &&
    a.lanAuthPass == b.lanAuthPass && a.lanAuthApiKey == b.lanAuthApiKey &&
    a.lanAuthApiKeyRw == b.lanAuthApiKeyRw

/-- `gw_cfg_ruuvi_cmp`. -/
def gwCfgRuuviCmp (a b : Ruuvi) : Bool :=
  remoteCmp a.remote b.remote && httpCmp a.http b.http && httpStatCmp a.httpStat b.httpStat &&
    mqttCmp a.mqtt b.mqtt && lanAuthCmp a.lanAuth b.lanAuth &&
    autoUpdateCmp a.autoUpdate b.autoUpdate && ntpCmp a.ntp b.ntp &&
    filterCmp a.filter b.filter && scanCmp a.scan b.scan &&
    scanFilterCmp a.scanFilter b.scanFilter && a.coordinates == b.coordinates &&
    a.fwUpdateUrl == b.fwUpdateUrl

/-- The four comparisons of a configuration. -/
def gwCfgCmp (a b : GwCfg) : Bool :=
  gwCfgRuuviCmp a.ruuvi b.ruuvi && gwCfgEthCmp a.eth b.eth &&
    wifimanConfigApCmp a.wifiAp b.wifiAp && wifimanConfigStaCmp a.wifiSta b.wifiSta

end cmp

/-! ## What the comparisons find

The fields that are compared are all fields of the section, except for those of the two Wi-Fi
sections. -/

theorem httpStatCmp_iff {a b : HttpStat} : httpStatCmp a b = true ↔ a = b := by
  cases a
  cases b
  simp only [httpStatCmp, Bool.and_eq_true, beq_iff_eq, HttpStat.mk.injEq, and_assoc]

/-- The two certificates come last in the comparison. -/
theorem mqttCmp_iff {a b : Mqtt} : mqttCmp a b = true ↔ a = b := by
  cases a
  cases b
  simp only [mqttCmp, Bool.and_eq_true, beq_iff_eq, Mqtt.mk.injEq]
  constructor
  · rintro ⟨⟨⟨⟨⟨⟨⟨⟨⟨⟨⟨⟨huse, hret⟩, htransport⟩, hformat⟩, hserver⟩, hport⟩, hinterval⟩, hprefix⟩,
      hclient⟩, huser⟩, hpass⟩, hssl⟩, hssl'⟩
    exact ⟨huse, hret, hssl, hssl', htransport, hformat, hserver, hport, hinterval, hprefix,
      hclient, huser, hpass⟩
  · rintro ⟨huse, hret, hssl, hssl', htransport, hformat, hserver, hport, hinterval, hprefix,
      hclient, huser, hpass⟩
    exact ⟨⟨⟨⟨⟨⟨⟨⟨⟨⟨⟨⟨huse, hret⟩, htransport⟩, hformat⟩, hserver⟩, hport⟩, hinterval⟩, hprefix⟩,
      hclient⟩, huser⟩, hpass⟩, hssl⟩, hssl'⟩

theorem autoUpdateCmp_iff {a b : AutoUpdate} : autoUpdateCmp a b = true ↔ a = b := by
  cases a
  cases b
  simp only [autoUpdateCmp, Bool.and_eq_true, beq_iff_eq, AutoUpdate.mk.injEq, and_assoc]

theorem ntpCmp_iff {a b : Ntp} : ntpCmp a b = true ↔ a = b := by
  cases a
  cases b
  simp only [ntpCmp, Bool.and_eq_true, beq_iff_eq, Ntp.mk.injEq, and_assoc]

theorem filterCmp_iff {a b : Filter} : filterCmp a b = true ↔ a = b := by
  cases a
  cases b
  simp only [filterCmp, Bool.and_eq_true, beq_iff_eq, Filter.mk.injEq]
  exact and_comm

theorem scanCmp_iff {a b : Scan} : scanCmp a b = true ↔ a = b := by
  cases a
  cases b
  simp only [scanCmp, Bool.and_eq_true, beq_iff_eq, Scan.mk.injEq, and_assoc]

theorem gwCfgEthCmp_iff {a b : Eth} : gwCfgEthCmp a b = true ↔ a = b := by
  cases a
  cases b
  simp only [gwCfgEthCmp, Bool.and_eq_true, beq_iff_eq, Eth.mk.injEq, and_assoc]

theorem lanAuthCmp_iff [Components] {a b : LanAuth} : lanAuthCmp a b = true ↔ a = b := by
  cases a
  cases b
  simp only [lanAuthCmp, Bool.and_eq_true, beq_iff_eq, LanAuth.mk.injEq, and_assoc]

/-- Access points compare equal if they differ in the cipher and the FTM responder only. -/
theorem wifimanConfigApCmp_iff {a b : WifiAp} : wifimanConfigApCmp a b = true ↔
    { a with pairwiseCipher := b.pairwiseCipher, ftmResponder := b.ftmResponder } = b := by
  cases a
  cases b
  simp only [wifimanConfigApCmp, wifimanConfigCmpConfigAp, wifimanConfigCmpSettingsAp,
    Bool.and_eq_true, beq_iff_eq, WifiAp.mk.injEq, and_assoc, true_and]

/-- Stations compare equal if they differ in the measurements and the BSS transitions only. -/
theorem wifimanConfigStaCmp_iff {a b : WifiSta} : wifimanConfigStaCmp a b = true ↔
    { a with rmEnabled := b.rmEnabled, btmEnabled := b.btmEnabled } = b := by
  cases a
  cases b
  simp only [wifimanConfigStaCmp, wifimanConfigCmpStaConfig, wifimanConfigCmpSettingsSta,
    Bool.and_eq_true, beq_iff_eq, WifiSta.mk.injEq, and_assoc, true_and]

theorem wifimanConfigApCmp_self (a : WifiAp) : wifimanConfigApCmp a a = true :=
  wifimanConfigApCmp_iff.mpr rfl

theorem wifimanConfigStaCmp_self (a : WifiSta) : wifimanConfigStaCmp a a = true :=
  wifimanConfigStaCmp_iff.mpr rfl

end GwCfgJson
end RuuviGateway
