import RuuviGateway.GwCfgJson.Generate

/-!
# The configuration of older firmware

`gw_cfg_blob.c`: the blob that older firmware left in NVS, and how it is converted.  Its
strings are the ones that `snprintf` copies.
-/

namespace RuuviGateway
namespace GwCfgJson

open CString

/-! ## The blob -/

/-- `ruuvi_gw_cfg_blob_eth_t`. -/
structure BlobEth where
  useEth : Bool
  ethDhcp : Bool
  ethStaticIp : List Char
  ethNetmask : List Char
  ethGw : List Char
  ethDns1 : List Char
  ethDns2 : List Char
  deriving DecidableEq

/-- `ruuvi_gw_cfg_blob_mqtt_t`. -/
structure BlobMqtt where
  useMqtt : Bool
  mqttUseDefaultPrefix : Bool
  mqttServer : List Char
  mqttPort : UInt16
  mqttPrefix : List Char
  mqttClientId : List Char
  mqttUser : List Char
  mqttPass : List Char
  deriving DecidableEq

/-- `ruuvi_gw_cfg_blob_http_t`. -/
structure BlobHttp where
  useHttp : Bool
  httpUrl : List Char
  httpUser : List Char
  httpPass : List Char
  deriving DecidableEq

/-- `ruuvi_gw_cfg_blob_lan_auth_t`. -/
structure BlobLanAuth where
  lanAuthType : List Char
  lanAuthUser : List Char
  lanAuthPass : List Char
  deriving DecidableEq

/-- `ruuvi_gw_cfg_blob_auto_update_t`; the cycle is `none` for a number that is no cycle. -/
structure BlobAutoUpdate where
  autoUpdateCycle : Option AutoUpdateCycle
  autoUpdateWeekdaysBitmask : UInt8
  autoUpdateIntervalFrom : UInt8
  autoUpdateIntervalTo : UInt8
  autoUpdateTzOffsetHours : Int8
  deriving DecidableEq

/-- `ruuvi_gw_cfg_blob_scan_t`. -/
structure BlobScan where
  scanCodedPhy : Bool
  scan1mbitPhy : Bool
  scan2mbitPhy : Bool
  scanChannel37 : Bool
  scanChannel38 : Bool
  scanChannel39 : Bool
  deriving DecidableEq

/-- `ruuvi_gateway_config_blob_t`. -/
structure Blob where
  header : UInt16
  fmtVersion : UInt16
  eth : BlobEth
  mqtt : BlobMqtt
  http : BlobHttp
  lanAuth : BlobLanAuth
  autoUpdate : BlobAutoUpdate
  filter : Filter
  scan : BlobScan
  coordinates : List Char
  deriving DecidableEq

/-! ## The conversion -/

/-- `gw_cfg_blob_convert_eth`. -/
def gwCfgBlobConvertEth (b : BlobEth) : Eth where
  useEth := b.useEth
  ethDhcp := b.ethDhcp
  ethStaticIp := snprintf 17 b.ethStaticIp
  ethNetmask := snprintf 17 b.ethNetmask
  ethGw := snprintf 17 b.ethGw
  ethDns1 := snprintf 17 b.ethDns1
  ethDns2 := snprintf 17 b.ethDns2

/-- `gw_cfg_blob_convert_mqtt`, over the default section. -/
def gwCfgBlobConvertMqtt (dflt : Mqtt) (b : BlobMqtt) : Mqtt :=
  { dflt with
    useMqtt := b.useMqtt
    mqttServer := snprintf 256 b.mqttServer
    mqttPort := b.mqttPort
    mqttPrefix :=
      if b.mqttUseDefaultPrefix then dflt.mqttPrefix else snprintf 257 b.mqttPrefix
    mqttClientId :=
      if str b.mqttClientId ≠ [] then snprintf 51 b.mqttClientId else dflt.mqttClientId
    mqttUser := snprintf 129 b.mqttUser
    mqttPass := snprintf 257 b.mqttPass }

/-- `gw_cfg_blob_convert_http`, over the default section. -/
def gwCfgBlobConvertHttp (dflt : Http) (b : BlobHttp) : Http :=
  let h := { dflt with dataFormat := .ruuvi }
  if !b.useHttp then { h with useHttpRuuvi := false, useHttp := false }
  else if str b.httpUrl = ruuviGatewayHttpDefaultUrl.toList ∧ str b.httpUser = [] then
    { h with useHttpRuuvi := true, useHttp := false }
  else { h with
    useHttpRuuvi := false
    useHttp := true
    httpUseExtraHttpPath := false
    httpUseExtraHttpQuery := false
    httpUseExtraHttpHeaders := false
    httpUrl := snprintf 256 b.httpUrl
    authType := if str b.httpUser = [] then .none else .basic
    auth :=
      if str b.httpUser = [] then h.auth
      else HttpAuth.setPassword b.httpPass (HttpAuth.setUser b.httpUser h.auth) }

/-- `gw_cfg_blob_convert_auto_update`, over the default section. -/
def gwCfgBlobConvertAutoUpdate (dflt : AutoUpdate) (b : BlobAutoUpdate) : AutoUpdate where
  autoUpdateCycle := b.autoUpdateCycle.getD dflt.autoUpdateCycle
  autoUpdateWeekdaysBitmask := b.autoUpdateWeekdaysBitmask
  autoUpdateIntervalFrom := b.autoUpdateIntervalFrom
  autoUpdateIntervalTo := b.autoUpdateIntervalTo
  autoUpdateTzOffsetHours := b.autoUpdateTzOffsetHours

/-- `gw_cfg_blob_convert_scan`. -/
def gwCfgBlobConvertScan (b : BlobScan) : Scan where
  scanCodedPhy := b.scanCodedPhy
  scan1mbitPhy := b.scan1mbitPhy
  scan2mbitPhy := b.scan2mbitPhy
  scanChannel37 := b.scanChannel37
  scanChannel38 := b.scanChannel38
  scanChannel39 := b.scanChannel39
  scanDefault := false

section cfg

variable [Components]

/-- `gw_cfg_blob_convert_lan_auth`: the type. -/
def gwCfgBlobConvertLanAuthType (dflt : LanAuth) (b : BlobLanAuth) : HttpServerAuthType :=
  if str b.lanAuthType = "lan_auth_allow".toList then .allow
  else if str b.lanAuthType = "lan_auth_basic".toList then .basic
  else if str b.lanAuthType = "lan_auth_digest".toList then .digest
  else if str b.lanAuthType = "lan_auth_ruuvi".toList then
    if str b.lanAuthUser = dflt.lanAuthUser.chars ∧ str b.lanAuthPass = dflt.lanAuthPass.chars then
      .default
    else .ruuvi
  else .deny

/-- `gw_cfg_blob_convert_lan_auth`, over the default section. -/
def gwCfgBlobConvertLanAuth (dflt : LanAuth) (b : BlobLanAuth) : LanAuth :=
  { dflt with
    lanAuthType := gwCfgBlobConvertLanAuthType dflt b
    lanAuthUser := snprintf _ b.lanAuthUser
    lanAuthPass := snprintf _ b.lanAuthPass }

/-- `gw_cfg_blob_convert`, over the default configuration. -/
def gwCfgBlobConvert (dflt : GwCfg) (b : Blob) : GwCfg :=
  if b.header ≠ 0xAABB then dflt
  else if b.fmtVersion ≠ 0x0008 then dflt
  else
    { dflt with
      eth := gwCfgBlobConvertEth b.eth
      ruuvi := { dflt.ruuvi with
        mqtt := gwCfgBlobConvertMqtt dflt.ruuvi.mqtt b.mqtt
        http := gwCfgBlobConvertHttp dflt.ruuvi.http b.http
        lanAuth := gwCfgBlobConvertLanAuth dflt.ruuvi.lanAuth b.lanAuth
        autoUpdate := gwCfgBlobConvertAutoUpdate dflt.ruuvi.autoUpdate b.autoUpdate
        filter := b.filter
        scan := gwCfgBlobConvertScan b.scan
        coordinates := snprintf 64 b.coordinates } }

/-- The checks that `settings_get_gw_cfg_blob_from_nvs` makes of a blob. -/
def Blob.isValid (b : Blob) : Bool := decide (b.header = 0xAABB ∧ b.fmtVersion = 0x0008)

/-- A blob that passes them is converted. -/
theorem gwCfgBlobConvert_of_isValid {dflt : GwCfg} {b : Blob} (h : b.isValid = true) :
    (gwCfgBlobConvert dflt b).eth = gwCfgBlobConvertEth b.eth ∧
      (gwCfgBlobConvert dflt b).ruuvi = { dflt.ruuvi with
        mqtt := gwCfgBlobConvertMqtt dflt.ruuvi.mqtt b.mqtt
        http := gwCfgBlobConvertHttp dflt.ruuvi.http b.http
        lanAuth := gwCfgBlobConvertLanAuth dflt.ruuvi.lanAuth b.lanAuth
        autoUpdate := gwCfgBlobConvertAutoUpdate dflt.ruuvi.autoUpdate b.autoUpdate
        filter := b.filter
        scan := gwCfgBlobConvertScan b.scan
        coordinates := snprintf 64 b.coordinates } := by
  obtain ⟨hheader, hversion⟩ := of_decide_eq_true h
  unfold gwCfgBlobConvert
  rw [if_neg (not_not.mpr hheader), if_neg (not_not.mpr hversion)]
  exact ⟨rfl, rfl⟩

end cfg

end GwCfgJson
end RuuviGateway
