import RuuviGateway.GwCfgJson.Instance
import RuuviGateway.GwCfgJson.SavedText
import RuuviGateway.Lib.RecursiveMutex

/-!
# The mutex of the configuration

Every function of `gw_cfg.c`, as a program that locks and unlocks `g_gw_cfg_mutex`, allocates
memory and accesses the variables of the file.  Three functions copy a part of the configuration
to memory that they allocate before they lock the mutex; `gw_cfg_get_remote_cfg_copy` allocates
it while it holds the mutex, and returns with the mutex held when there is no memory.

The callback of the configuration and `event_mgr_notify` do not use the mutex: they are recorded
in the order in which they are called.  The mutex exists all the time: `gw_cfg_init` creates it
before it locks it, and `gw_cfg_deinit` deletes it after it has unlocked it.
-/

namespace RuuviGateway
namespace GwCfgJson

open CString RecursiveMutex TransitionSystem

/-! ## The variables of the file -/

/-- `event_mgr_ev_e`, as far as `gw_cfg.c` notifies it. -/
inductive CfgEvent where
  | ready
  | changedRuuvi
  | changedRuuviNtpUse
  | changedRuuviNtpUseDhcp
  | changedEth
  | changedWifi
  deriving DecidableEq, Repr

/-- `gw_cfg_device_info_t`. -/
structure GwCfgDeviceInfo where
  wifiAp : List Char
  hostname : List Char
  esp32FwVer : List Char
  nrf52FwVer : List Char
  nrf52MacAddr : List Char
  nrf52DeviceId : List Char
  esp32MacAddrWifi : List Char
  esp32MacAddrEth : List Char
  deriving DecidableEq

section model

variable [Components]

/-- What `gw_cfg.c` calls while it holds the mutex. -/
inductive Notice where
  | event (ev : CfgEvent)
  /-- `g_p_gw_cfg_cb_on_change_cfg`; the configuration is `none` for `NULL`. -/
  | changed (cfg : Option GwCfg)
  deriving DecidableEq

/-- `g_gateway_config`, `g_gw_cfg_is_empty`, `g_gw_cfg_ready` and whether
`g_p_gw_cfg_cb_on_change_cfg` is set. -/
structure Globals where
  store : GwCfg.Store Ruuvi Eth WifiAp WifiSta
  deviceInfo : GwCfgDeviceInfo
  ready : Bool
  hasCallback : Bool
  /-- What has been called so far. -/
  notices : List Notice

namespace Globals

/-- `g_gateway_config` without `device_info`. -/
def cfg (g : Globals) : GwCfg := ofStore g.store.cfg

def notify (ev : CfgEvent) (g : Globals) : Globals :=
  { g with notices := g.notices ++ [.event ev] }

/-- The callback, if there is one. -/
def cbOnChangeCfg (cfg : Option GwCfg) (g : Globals) : Globals :=
  if g.hasCallback then { g with notices := g.notices ++ [.changed cfg] } else g

def setIsEmpty (isEmpty : Bool) (g : Globals) : Globals :=
  { g with store := { g.store with isEmpty := isEmpty } }

def setRuuvi (r : Ruuvi) (g : Globals) : Globals :=
  { g with store := { g.store with cfg := { g.store.cfg with ruuvi := r } } }

def setEth (e : Eth) (g : Globals) : Globals :=
  { g with store := { g.store with cfg := { g.store.cfg with eth := e } } }

def setWifiAp (a : WifiAp) (g : Globals) : Globals :=
  { g with store := { g.store with cfg := { g.store.cfg with wifiAp := a } } }

def setWifiSta (w : WifiSta) (g : Globals) : Globals :=
  { g with store := { g.store with cfg := { g.store.cfg with wifiSta := w } } }

end Globals

/-- The allocations of `gw_cfg.c`, by the function that makes them. -/
inductive AllocSite where
  | remoteCfgCopy
  | httpCopy
  | httpPasswordCopy
  | httpStatCopy
  | httpStatPasswordCopy
  | mqttCopy
  | mqttPasswordCopy
  | coordinatesStrBuf
  | fwUpdateUrl
  deriving DecidableEq, Repr

/-- A function of `gw_cfg.c`. -/
abbrev CfgProg (α : Type) := Prog Globals AllocSite α

variable {α : Type}

/-! ## Reading -/

/-- `gw_cfg_lock_ro`, a part of the configuration, `gw_cfg_unlock_ro`. -/
def readLocked (get : Globals → α) : CfgProg α :=
  .lock <| .read fun g => .unlock <| .ret (get g)

/-- The memory for a copy is allocated before the mutex is locked. -/
def copyLocked (site : AllocSite) (get : Globals → α) : CfgProg (Option α) :=
  .alloc site fun ok => if ok then .lock <| .read fun g => .unlock <| .ret (some (get g))
    else .ret none

/-- `str_buf_printf_with_alloc` between `gw_cfg_lock_ro` and `gw_cfg_unlock_ro`; the string is
`none` for `str_buf_init_null`. -/
def strBufLocked (site : AllocSite) (get : Globals → List Char) : CfgProg (Option (List Char)) :=
  .lock <| .read fun g => .alloc site fun ok => .unlock <|
    .ret (if ok then some (get g) else none)

/-- `gw_cfg_is_initialized`. -/
def gwCfgIsInitialized : CfgProg Bool := .read fun g => .ret g.ready

/-- `gw_cfg_is_empty`. -/
def gwCfgIsEmpty : CfgProg Bool := readLocked fun g => g.store.isEmpty

/-- `gw_cfg_get_copy`. -/
def gwCfgGetCopy : CfgProg (GwCfg × GwCfgDeviceInfo) := readLocked fun g => (g.cfg, g.deviceInfo)

/-- `gw_cfg_get_remote_cfg_use`: the flag and the interval. -/
def gwCfgGetRemoteCfgUse : CfgProg (Bool × UInt16) := readLocked fun g =>
  (g.cfg.ruuvi.remote.useRemoteCfg, g.cfg.ruuvi.remote.refreshIntervalMinutes)

/-- `gw_cfg_get_remote_cfg_copy`. -/
def gwCfgGetRemoteCfgCopy : CfgProg (Option Remote) :=
  .lock <| .alloc .remoteCfgCopy fun ok =>
    if ok then .read fun g => .unlock <| .ret (some g.cfg.ruuvi.remote)
    -- there is no gw_cfg_unlock_ro on this path
    else .ret none

/-- `gw_cfg_get_eth_use_eth`. -/
def gwCfgGetEthUseEth : CfgProg Bool := readLocked fun g => g.cfg.eth.useEth

/-- `gw_cfg_get_eth_use_dhcp`. -/
def gwCfgGetEthUseDhcp : CfgProg Bool := readLocked fun g => g.cfg.eth.ethDhcp

/-- `gw_cfg_get_mqtt_use_mqtt`. -/
def gwCfgGetMqttUseMqtt : CfgProg Bool := readLocked fun g => g.cfg.ruuvi.mqtt.useMqtt

/-- `gw_cfg_get_mqtt_sending_interval`. -/
def gwCfgGetMqttSendingInterval : CfgProg UInt32 :=
  readLocked fun g => g.cfg.ruuvi.mqtt.mqttSendingInterval

/-- `gw_cfg_get_mqtt_use_mqtt_over_ssl_or_wss`. -/
def gwCfgGetMqttUseMqttOverSslOrWss : CfgProg Bool :=
  readLocked fun g => g.cfg.ruuvi.mqtt.useMqtt &&
    (g.cfg.ruuvi.mqtt.mqttTransport.chars == "SSL".toList ||
      g.cfg.ruuvi.mqtt.mqttTransport.chars == "WSS".toList)

/-- `gw_cfg_get_http_use_http_ruuvi`. -/
def gwCfgGetHttpUseHttpRuuvi : CfgProg Bool := readLocked fun g => g.cfg.ruuvi.http.useHttpRuuvi

/-- `gw_cfg_get_http_use_http`. -/
def gwCfgGetHttpUseHttp : CfgProg Bool := readLocked fun g => g.cfg.ruuvi.http.useHttp

/-- `gw_cfg_get_http_period`. -/
def gwCfgGetHttpPeriod : CfgProg UInt32 := readLocked fun g => g.cfg.ruuvi.http.httpPeriod

/-- `gw_cfg_get_http_copy`. -/
def gwCfgGetHttpCopy : CfgProg (Option Http) := copyLocked .httpCopy fun g => g.cfg.ruuvi.http

/-- `gw_cfg_get_http_password_copy_unsafe`: the string that it copies. -/
def httpPassword (http : Http) : List Char :=
  match http.authType with
  | .none => []
  | .basic => http.auth.password
  | .bearer | .token | .apikey => http.auth.token

/-- `gw_cfg_get_http_password_copy`. -/
def gwCfgGetHttpPasswordCopy : CfgProg (Option (List Char)) :=
  strBufLocked .httpPasswordCopy fun g => httpPassword g.cfg.ruuvi.http

/-- `gw_cfg_get_http_stat_use_http_stat`. -/
def gwCfgGetHttpStatUseHttpStat : CfgProg Bool :=
  readLocked fun g => g.cfg.ruuvi.httpStat.useHttpStat

/-- `gw_cfg_get_http_stat_copy`. -/
def gwCfgGetHttpStatCopy : CfgProg (Option HttpStat) :=
  copyLocked .httpStatCopy fun g => g.cfg.ruuvi.httpStat

/-- `gw_cfg_get_http_stat_password_copy`. -/
def gwCfgGetHttpStatPasswordCopy : CfgProg (Option (List Char)) :=
  strBufLocked .httpStatPasswordCopy fun g => g.cfg.ruuvi.httpStat.httpStatPass.chars

/-- `gw_cfg_get_mqtt_copy`. -/
def gwCfgGetMqttCopy : CfgProg (Option Mqtt) := copyLocked .mqttCopy fun g => g.cfg.ruuvi.mqtt

/-- `gw_cfg_get_mqtt_password_copy`. -/
def gwCfgGetMqttPasswordCopy : CfgProg (Option (List Char)) :=
  strBufLocked .mqttPasswordCopy fun g => g.cfg.ruuvi.mqtt.mqttPass.chars

/-- `gw_cfg_get_auto_update_cycle`. -/
def gwCfgGetAutoUpdateCycle : CfgProg AutoUpdateCycle :=
  readLocked fun g => g.cfg.ruuvi.autoUpdate.autoUpdateCycle

/-- `gw_cfg_get_ntp_use`. -/
def gwCfgGetNtpUse : CfgProg Bool := readLocked fun g => g.cfg.ruuvi.ntp.ntpUse

/-- `gw_cfg_get_coordinates`. -/
def gwCfgGetCoordinates : CfgProg (Buf 64) := readLocked fun g => g.cfg.ruuvi.coordinates

/-- `gw_cfg_get_coordinates_str_buf`. -/
def gwCfgGetCoordinatesStrBuf : CfgProg (Option (List Char)) :=
  strBufLocked .coordinatesStrBuf fun g => g.cfg.ruuvi.coordinates.chars

/-- `gw_cfg_get_wifi_cfg`. -/
def gwCfgGetWifiCfg : CfgProg (WifiAp × WifiSta) :=
  readLocked fun g => (g.cfg.wifiAp, g.cfg.wifiSta)

/-- `gw_cfg_is_wifi_sta_configured`. -/
def gwCfgIsWifiStaConfigured : CfgProg Bool :=
  readLocked fun g => !g.cfg.wifiSta.ssid.chars.isEmpty

/-- `gw_cfg_get_fw_update_url`. -/
def gwCfgGetFwUpdateUrl : CfgProg (Option (List Char)) :=
  strBufLocked .fwUpdateUrl fun g => g.cfg.ruuvi.fwUpdateUrl.chars

/-! ## Reading without the mutex -/

/-- `gw_cfg_get_esp32_fw_ver`. -/
def gwCfgGetEsp32FwVer : CfgProg (List Char) := .read fun g => .ret g.deviceInfo.esp32FwVer

/-- `gw_cfg_get_nrf52_fw_ver`. -/
def gwCfgGetNrf52FwVer : CfgProg (List Char) := .read fun g => .ret g.deviceInfo.nrf52FwVer

/-- `gw_cfg_get_nrf52_device_id`. -/
def gwCfgGetNrf52DeviceId : CfgProg (List Char) := .read fun g => .ret g.deviceInfo.nrf52DeviceId

/-- `gw_cfg_get_nrf52_mac_addr`. -/
def gwCfgGetNrf52MacAddr : CfgProg (List Char) := .read fun g => .ret g.deviceInfo.nrf52MacAddr

/-- `gw_cfg_get_esp32_mac_addr_wifi`. -/
def gwCfgGetEsp32MacAddrWifi : CfgProg (List Char) :=
  .read fun g => .ret g.deviceInfo.esp32MacAddrWifi

/-- `gw_cfg_get_esp32_mac_addr_eth`. -/
def gwCfgGetEsp32MacAddrEth : CfgProg (List Char) :=
  .read fun g => .ret g.deviceInfo.esp32MacAddrEth

/-- `gw_cfg_get_wifi_ap_ssid`, of the default configuration. -/
def gwCfgGetWifiApSsid (info : GwCfgDeviceInfo) : CfgProg (List Char) := .ret info.wifiAp

/-- `gw_cfg_get_hostname`, of the default configuration. -/
def gwCfgGetHostname (info : GwCfgDeviceInfo) : CfgProg (List Char) := .ret info.hostname

/-- `gw_cfg_auth_type_to_str`. -/
def gwCfgAuthTypeToStr (d : GwCfg) (lanAuth : LanAuth) : CfgProg (List Char) :=
  .ret (authTypeToStr (d.ruuvi.lanAuth.shownType lanAuth))

/-! ## Writing -/

/-- `gw_cfg_set_ruuvi` and its siblings, and whether the section was modified: a section that
compares equal is kept, and the events are notified once the configuration is ready. -/
def setSectionLocked {β : Type} (cmp : β → β → Bool) (get : Globals → β)
    (set : β → Globals → Globals) (events : β → β → List CfgEvent) (new : Option β)
    (k : Bool → CfgProg α) : CfgProg α :=
  match new with
  | none => k false
  | some v => .read fun g =>
      if !cmp (get g) v then
        .write (fun g => set v (if g.ready then (events (get g) v).foldl (fun g ev => g.notify ev) g
          else g)) (k true)
      else k false

/-- The events of `gw_cfg_set_ruuvi`. -/
def ruuviEvents (dst new : Ruuvi) : List CfgEvent :=
  .changedRuuvi ::
    if dst.ntp.ntpUse != new.ntp.ntpUse then [.changedRuuviNtpUse]
    else if new.ntp.ntpUse && dst.ntp.ntpUseDhcp != new.ntp.ntpUseDhcp then
      [.changedRuuviNtpUseDhcp]
    else []

/-- `gw_cfg_set_ruuvi`. -/
def gwCfgSetRuuvi (new : Option Ruuvi) (k : Bool → CfgProg α) : CfgProg α :=
  setSectionLocked gwCfgRuuviCmp (fun g => g.store.cfg.ruuvi) Globals.setRuuvi ruuviEvents new k

/-- `gw_cfg_set_eth`. -/
def gwCfgSetEth (new : Option Eth) (k : Bool → CfgProg α) : CfgProg α :=
  setSectionLocked gwCfgEthCmp (fun g => g.store.cfg.eth) Globals.setEth
    (fun _ _ => [.changedEth]) new k

/-- `gw_cfg_set_wifi_ap`. -/
def gwCfgSetWifiAp (new : Option WifiAp) (k : Bool → CfgProg α) : CfgProg α :=
  setSectionLocked wifimanConfigApCmp (fun g => g.store.cfg.wifiAp) Globals.setWifiAp
    (fun _ _ => [.changedWifi]) new k

/-- `gw_cfg_set_wifi_sta`. -/
def gwCfgSetWifiSta (new : Option WifiSta) (k : Bool → CfgProg α) : CfgProg α :=
  setSectionLocked wifimanConfigStaCmp (fun g => g.store.cfg.wifiSta) Globals.setWifiSta
    (fun _ _ => [.changedWifi]) new k

/-- The end of `gw_cfg_set`: the configuration becomes ready. -/
def Globals.setReady (g : Globals) : Globals :=
  if g.ready then g
  else if g.hasCallback then { g with ready := true }.notify .ready
  else { g with ready := true }

/-- `gw_cfg_set`. -/
def gwCfgSet (ruuvi : Option Ruuvi) (eth : Option Eth) (ap : Option WifiAp)
    (sta : Option WifiSta) : CfgProg GwCfgUpdateStatus :=
  .lock <|
    .write (Globals.setIsEmpty (ruuvi.isNone && eth.isNone && ap.isNone && sta.isNone)) <|
    gwCfgSetRuuvi ruuvi fun flagRuuvi =>
    gwCfgSetEth eth fun flagEth =>
    gwCfgSetWifiAp ap fun flagWifiAp =>
    gwCfgSetWifiSta sta fun flagWifiSta =>
    .write (fun g => g.cbOnChangeCfg (if g.store.isEmpty then none else some g.cfg)) <|
    .write Globals.setReady <|
    .unlock <| .ret ⟨flagRuuvi, flagEth, flagWifiAp, flagWifiSta⟩

/-- `gw_cfg_update_eth_cfg`. -/
def gwCfgUpdateEthCfg (e : Eth) : CfgProg Unit := (gwCfgSet none (some e) none none).void

/-- `gw_cfg_update_ruuvi_cfg`. -/
def gwCfgUpdateRuuviCfg (r : Ruuvi) : CfgProg Unit := (gwCfgSet (some r) none none none).void

/-- `gw_cfg_update_wifi_ap_config`. -/
def gwCfgUpdateWifiApConfig (a : WifiAp) : CfgProg Unit :=
  (gwCfgSet none none (some a) none).void

/-- `gw_cfg_update_wifi_sta_config`. -/
def gwCfgUpdateWifiStaConfig (w : WifiSta) : CfgProg Unit :=
  (gwCfgSet none none none (some w)).void

/-- `gw_cfg_update`; the configuration is `none` for `NULL`. -/
def gwCfgUpdate : Option GwCfg → CfgProg GwCfgUpdateStatus
  | none => gwCfgSet none none none none
  | some c => gwCfgSet (some c.ruuvi) (some c.eth) (some c.wifiAp) (some c.wifiSta)

/-- `gw_cfg_update_fw_update_url`. -/
def gwCfgUpdateFwUpdateUrl (url : List Char) : CfgProg Unit :=
  .lock <|
    .write (fun g => g.setRuuvi { g.store.cfg.ruuvi with fwUpdateUrl := snprintf 256 url }) <|
    .write (fun g => g.cbOnChangeCfg (some g.cfg)) <|
    .unlock <| .ret ()

/-- `gw_cfg_set_eth_use_eth`. -/
def gwCfgSetEthUseEth (useEth : Bool) : CfgProg Unit :=
  .lock <| .write (fun g => g.setEth { g.store.cfg.eth with useEth := useEth }) <|
    .unlock <| .ret ()

/-- `gw_cfg_init`, after the mutex has been created. -/
def gwCfgInit (d : GwCfg) (info : GwCfgDeviceInfo) (hasCallback : Bool) : CfgProg Unit :=
  .lock <|
    .write (fun g =>
      { g with
        store := { cfg := toStore d, isEmpty := true }
        deviceInfo := info
        ready := false
        hasCallback := hasCallback }) <|
    .unlock <| .ret ()

/-- `gw_cfg_deinit`, before the mutex is deleted. -/
def gwCfgDeinit : CfgProg Unit :=
  .lock <| .write (fun g => { g with hasCallback := false, ready := false }) <|
    .unlock <| .ret ()

/-! ## The calls -/

/-- A call of a function of `gw_cfg.c` other than `gw_cfg_lock_ro` and `gw_cfg_unlock_ro`. -/
inductive CfgCall where
  | init (hasCallback : Bool)
  | deinit
  | isInitialized
  | isEmpty
  | updateEthCfg (e : Eth)
  | updateRuuviCfg (r : Ruuvi)
  | updateFwUpdateUrl (url : List Char)
  | updateWifiApConfig (a : WifiAp)
  | updateWifiStaConfig (w : WifiSta)
  | update (c : Option GwCfg)
  | getCopy
  | getRemoteCfgUse
  | getRemoteCfgCopy
  | getEthUseEth
  | setEthUseEth (useEth : Bool)
  | getEthUseDhcp
  | getMqttUseMqtt
  | getMqttSendingInterval
  | getMqttUseMqttOverSslOrWss
  | getHttpUseHttpRuuvi
  | getHttpUseHttp
  | getHttpPeriod
  | getHttpCopy
  | getHttpPasswordCopy
  | getHttpStatUseHttpStat
  | getHttpStatCopy
  | getHttpStatPasswordCopy
  | getMqttCopy
  | getMqttPasswordCopy
  | getAutoUpdateCycle
  | getNtpUse
  | getCoordinates
  | getCoordinatesStrBuf
  | getWifiCfg
  | isWifiStaConfigured
  | getEsp32FwVer
  | getNrf52FwVer
  | getNrf52DeviceId
  | getNrf52MacAddr
  | getEsp32MacAddrWifi
  | getEsp32MacAddrEth
  | getWifiApSsid
  | getHostname
  | authTypeToStr (lanAuth : LanAuth)
  | getFwUpdateUrl

/-- The program of a call, over the default configuration. -/
def CfgCall.prog (d : GwCfg) (info : GwCfgDeviceInfo) : CfgCall → CfgProg Unit
  | .init hasCallback => gwCfgInit d info hasCallback
  | .deinit => gwCfgDeinit
  | .isInitialized => gwCfgIsInitialized.void
  | .isEmpty => gwCfgIsEmpty.void
  | .updateEthCfg e => gwCfgUpdateEthCfg e
  | .updateRuuviCfg r => gwCfgUpdateRuuviCfg r
  | .updateFwUpdateUrl url => gwCfgUpdateFwUpdateUrl url
  | .updateWifiApConfig a => gwCfgUpdateWifiApConfig a
  | .updateWifiStaConfig w => gwCfgUpdateWifiStaConfig w
  | .update c => (gwCfgUpdate c).void
  | .getCopy => gwCfgGetCopy.void
  | .getRemoteCfgUse => gwCfgGetRemoteCfgUse.void
  | .getRemoteCfgCopy => gwCfgGetRemoteCfgCopy.void
  | .getEthUseEth => gwCfgGetEthUseEth.void
  | .setEthUseEth useEth => gwCfgSetEthUseEth useEth
  | .getEthUseDhcp => gwCfgGetEthUseDhcp.void
  | .getMqttUseMqtt => gwCfgGetMqttUseMqtt.void
  | .getMqttSendingInterval => gwCfgGetMqttSendingInterval.void
  | .getMqttUseMqttOverSslOrWss => gwCfgGetMqttUseMqttOverSslOrWss.void
  | .getHttpUseHttpRuuvi => gwCfgGetHttpUseHttpRuuvi.void
  | .getHttpUseHttp => gwCfgGetHttpUseHttp.void
  | .getHttpPeriod => gwCfgGetHttpPeriod.void
  | .getHttpCopy => gwCfgGetHttpCopy.void
  | .getHttpPasswordCopy => gwCfgGetHttpPasswordCopy.void
  | .getHttpStatUseHttpStat => gwCfgGetHttpStatUseHttpStat.void
  | .getHttpStatCopy => gwCfgGetHttpStatCopy.void
  | .getHttpStatPasswordCopy => gwCfgGetHttpStatPasswordCopy.void
  | .getMqttCopy => gwCfgGetMqttCopy.void
  | .getMqttPasswordCopy => gwCfgGetMqttPasswordCopy.void
  | .getAutoUpdateCycle => gwCfgGetAutoUpdateCycle.void
  | .getNtpUse => gwCfgGetNtpUse.void
  | .getCoordinates => gwCfgGetCoordinates.void
  | .getCoordinatesStrBuf => gwCfgGetCoordinatesStrBuf.void
  | .getWifiCfg => gwCfgGetWifiCfg.void
  | .isWifiStaConfigured => gwCfgIsWifiStaConfigured.void
  | .getEsp32FwVer => gwCfgGetEsp32FwVer.void
  | .getNrf52FwVer => gwCfgGetNrf52FwVer.void
  | .getNrf52DeviceId => gwCfgGetNrf52DeviceId.void
  | .getNrf52MacAddr => gwCfgGetNrf52MacAddr.void
  | .getEsp32MacAddrWifi => gwCfgGetEsp32MacAddrWifi.void
  | .getEsp32MacAddrEth => gwCfgGetEsp32MacAddrEth.void
  | .getWifiApSsid => (gwCfgGetWifiApSsid info).void
  | .getHostname => (gwCfgGetHostname info).void
  | .authTypeToStr lanAuth => (gwCfgAuthTypeToStr d lanAuth).void
  | .getFwUpdateUrl => gwCfgGetFwUpdateUrl.void

/-! ## Locked as often as unlocked -/

variable {allowed : AllocSite → Bool → Prop} {n : Nat}

theorem readLocked_closes (get : Globals → α) : (readLocked get).Closes allowed 0 :=
  fun _ => rfl

theorem copyLocked_closes (site : AllocSite) (get : Globals → α) :
    (copyLocked site get).Closes allowed 0 := by
  intro ok _
  cases ok with
  | true => exact fun _ => rfl
  | false => rfl

theorem strBufLocked_closes (site : AllocSite) (get : Globals → List Char) :
    (strBufLocked site get).Closes allowed 0 := fun _ _ _ => rfl

theorem setSectionLocked_closes {β : Type} (cmp : β → β → Bool) (get : Globals → β)
    (set : β → Globals → Globals) (events : β → β → List CfgEvent) (new : Option β)
    {k : Bool → CfgProg α} (hk : ∀ modified, (k modified).Closes allowed n) :
    (setSectionLocked cmp get set events new k).Closes allowed n := by
  cases new with
  | none => exact hk false
  | some v =>
    intro g
    show Prog.Closes allowed n (if _ then _ else _)
    split
    · exact hk true
    · exact hk false

theorem gwCfgSet_closes (ruuvi : Option Ruuvi) (eth : Option Eth) (ap : Option WifiAp)
    (sta : Option WifiSta) : (gwCfgSet ruuvi eth ap sta).Closes allowed 0 := by
  show Prog.Closes allowed 1 (gwCfgSetRuuvi ruuvi _)
  refine setSectionLocked_closes _ _ _ _ _ fun flagRuuvi => ?_
  refine setSectionLocked_closes _ _ _ _ _ fun flagEth => ?_
  refine setSectionLocked_closes _ _ _ _ _ fun flagWifiAp => ?_
  exact setSectionLocked_closes _ _ _ _ _ fun flagWifiSta => rfl

variable {d : GwCfg} {info : GwCfgDeviceInfo} {c : CfgCall}

/-- Every function but one unlocks what it locks, whatever its allocations do. -/
theorem CfgCall.closes (hc : c ≠ .getRemoteCfgCopy) : (c.prog d info).Closes allowed 0 := by
  cases c with
  | getRemoteCfgCopy => exact absurd rfl hc
  | init | deinit | updateFwUpdateUrl | setEthUseEth => rfl
  | isInitialized | getEsp32FwVer | getNrf52FwVer | getNrf52DeviceId | getNrf52MacAddr
  | getEsp32MacAddrWifi | getEsp32MacAddrEth => exact fun _ => rfl
  | getWifiApSsid | getHostname | authTypeToStr => rfl
  | updateEthCfg | updateRuuviCfg | updateWifiApConfig | updateWifiStaConfig =>
    exact (gwCfgSet_closes ..).void
  | update c =>
    cases c with
    | none => exact (gwCfgSet_closes ..).void
    | some c => exact (gwCfgSet_closes ..).void
  | getHttpCopy | getHttpStatCopy | getMqttCopy => exact (copyLocked_closes _ _).void
  | getHttpPasswordCopy | getHttpStatPasswordCopy | getMqttPasswordCopy | getCoordinatesStrBuf
  | getFwUpdateUrl => exact (strBufLocked_closes _ _).void
  | _ => exact (readLocked_closes _).void

theorem gwCfgGetRemoteCfgCopy_closes (hmem : ∀ ok, allowed .remoteCfgCopy ok → ok = true) :
    gwCfgGetRemoteCfgCopy.Closes allowed 0 := by
  intro ok hok
  rw [hmem ok hok]
  exact fun _ => rfl

theorem gwCfgGetRemoteCfgCopy_stays : gwCfgGetRemoteCfgCopy.Stays 0 := by
  intro ok
  cases ok with
  | true => exact fun _ => trivial
  | false => trivial

theorem CfgCall.stays (c : CfgCall) : (c.prog d info).Stays 0 := by
  by_cases hc : c = .getRemoteCfgCopy
  · subst hc
    exact gwCfgGetRemoteCfgCopy_stays.void
  · exact (CfgCall.closes hc).stays

/-! ## `gw_cfg_set` alone -/

theorem Globals.foldl_notify_store (evs : List CfgEvent) (g : Globals) :
    (evs.foldl (fun g ev => g.notify ev) g).store = g.store := by
  induction evs generalizing g with
  | nil => rfl
  | cons ev evs ih => exact ih (g.notify ev)

/-- A section that is set has the value that the writers give it, and the flag says whether it
was modified. -/
theorem setSectionLocked_run {β : Type} {cmp : β → β → Bool} {get : Globals → β}
    {set : β → Globals → Globals} (hget : ∀ g, (set (get g) g).store = g.store)
    (hset : ∀ v g g', g.store = g'.store → (set v g).store = (set v g').store)
    (events : β → β → List CfgEvent) (new : Option β) (k : Bool → CfgProg α)
    (ok : AllocSite → Bool) (g : Globals) (depth : Nat) :
    ∃ g', (setSectionLocked cmp get set events new k).run ok g depth =
        (k (new.any fun v => !cmp (get g) v)).run ok g' depth ∧
      g'.store = (set (GwCfg.setSection cmp new (get g)) g).store := by
  cases new with
  | none => exact ⟨g, rfl, (hget g).symm⟩
  | some v =>
    cases hcmp : cmp (get g) v with
    | true =>
      refine ⟨g, ?_, ?_⟩
      · simp [setSectionLocked, Prog.run, hcmp]
      · rw [show GwCfg.setSection cmp (some v) (get g) = get g by simp [GwCfg.setSection, hcmp]]
        exact (hget g).symm
    | false =>
      refine ⟨_, by simp [setSectionLocked, Prog.run, hcmp]; rfl, ?_⟩
      rw [show GwCfg.setSection cmp (some v) (get g) = v by simp [GwCfg.setSection, hcmp]]
      refine hset v _ g ?_
      split
      · exact Globals.foldl_notify_store _ g
      · rfl

theorem Globals.cbOnChangeCfg_store (cfg : Option GwCfg) (g : Globals) :
    (g.cbOnChangeCfg cfg).store = g.store := by
  unfold Globals.cbOnChangeCfg
  split <;> rfl

theorem Globals.setReady_store (g : Globals) : g.setReady.store = g.store := by
  unfold Globals.setReady
  split
  · rfl
  · split <;> rfl

theorem gwCfgSetRuuvi_run (new : Option Ruuvi) (k : Bool → CfgProg α) (ok : AllocSite → Bool)
    (g : Globals) (depth : Nat) :
    ∃ g', (gwCfgSetRuuvi new k).run ok g depth =
        (k (new.any fun v => !gwCfgRuuviCmp g.store.cfg.ruuvi v)).run ok g' depth ∧
      g'.store = (g.setRuuvi (GwCfg.setSection gwCfgRuuviCmp new g.store.cfg.ruuvi)).store :=
  setSectionLocked_run (fun _ => rfl) (fun v g g' h => by simp only [Globals.setRuuvi, h]) ..

theorem gwCfgSetEth_run (new : Option Eth) (k : Bool → CfgProg α) (ok : AllocSite → Bool)
    (g : Globals) (depth : Nat) :
    ∃ g', (gwCfgSetEth new k).run ok g depth =
        (k (new.any fun v => !gwCfgEthCmp g.store.cfg.eth v)).run ok g' depth ∧
      g'.store = (g.setEth (GwCfg.setSection gwCfgEthCmp new g.store.cfg.eth)).store :=
  setSectionLocked_run (fun _ => rfl) (fun v g g' h => by simp only [Globals.setEth, h]) ..

theorem gwCfgSetWifiAp_run (new : Option WifiAp) (k : Bool → CfgProg α) (ok : AllocSite → Bool)
    (g : Globals) (depth : Nat) :
    ∃ g', (gwCfgSetWifiAp new k).run ok g depth =
        (k (new.any fun v => !wifimanConfigApCmp g.store.cfg.wifiAp v)).run ok g' depth ∧
      g'.store =
        (g.setWifiAp (GwCfg.setSection wifimanConfigApCmp new g.store.cfg.wifiAp)).store :=
  setSectionLocked_run (fun _ => rfl) (fun v g g' h => by simp only [Globals.setWifiAp, h]) ..

theorem gwCfgSetWifiSta_run (new : Option WifiSta) (k : Bool → CfgProg α)
    (ok : AllocSite → Bool) (g : Globals) (depth : Nat) :
    ∃ g', (gwCfgSetWifiSta new k).run ok g depth =
        (k (new.any fun v => !wifimanConfigStaCmp g.store.cfg.wifiSta v)).run ok g' depth ∧
      g'.store =
        (g.setWifiSta (GwCfg.setSection wifimanConfigStaCmp new g.store.cfg.wifiSta)).store :=
  setSectionLocked_run (fun _ => rfl) (fun v g g' h => by simp only [Globals.setWifiSta, h]) ..

variable (d) in
/-- Run alone, `gw_cfg_set` is what the writers take it for. -/
theorem gwCfgSet_run (ruuvi : Option Ruuvi) (eth : Option Eth) (ap : Option WifiAp)
    (sta : Option WifiSta) (ok : AllocSite → Bool) (g : Globals) (depth : Nat) :
    ∃ g', (gwCfgSet ruuvi eth ap sta).run ok g depth = some
        (⟨ruuvi.any fun v => !gwCfgRuuviCmp g.store.cfg.ruuvi v,
          eth.any fun v => !gwCfgEthCmp g.store.cfg.eth v,
          ap.any fun v => !wifimanConfigApCmp g.store.cfg.wifiAp v,
          sta.any fun v => !wifimanConfigStaCmp g.store.cfg.wifiSta v⟩, g', depth) ∧
      g'.store = GwCfg.gwCfgSet (gwCfgOps d) ruuvi eth ap sta g.store := by
  let g₀ := g.setIsEmpty (ruuvi.isNone && eth.isNone && ap.isNone && sta.isNone)
  obtain ⟨g₁, hrun₁, h₁⟩ := gwCfgSetRuuvi_run ruuvi _ ok g₀ (depth + 1)
  obtain ⟨g₂, hrun₂, h₂⟩ := gwCfgSetEth_run eth _ ok g₁ (depth + 1)
  obtain ⟨g₃, hrun₃, h₃⟩ := gwCfgSetWifiAp_run ap _ ok g₂ (depth + 1)
  obtain ⟨g₄, hrun₄, h₄⟩ := gwCfgSetWifiSta_run sta _ ok g₃ (depth + 1)
  have heth : g₁.store.cfg.eth = g.store.cfg.eth := by rw [h₁]; rfl
  have hap : g₂.store.cfg.wifiAp = g.store.cfg.wifiAp := by
    rw [h₂, Globals.setEth, h₁]
    rfl
  have hsta : g₃.store.cfg.wifiSta = g.store.cfg.wifiSta := by
    rw [h₃, Globals.setWifiAp, h₂, Globals.setEth, h₁]
    rfl
  refine ⟨(g₄.cbOnChangeCfg (if g₄.store.isEmpty then none else some g₄.cfg)).setReady,
    hrun₁.trans (hrun₂.trans (hrun₃.trans (hrun₄.trans ?_))), ?_⟩
  · rw [heth, hap, hsta]
    rfl
  · rw [Globals.setReady_store, Globals.cbOnChangeCfg_store, h₄, Globals.setWifiSta, hsta, h₃,
      Globals.setWifiAp, hap, h₂, Globals.setEth, heth, h₁]
    rfl

/-! ## The tasks -/

/-- The condition on the allocations: the one of `gw_cfg_get_remote_cfg_copy` succeeds. -/
def RemoteCfgAllocated (site : AllocSite) (ok : Bool) : Prop := site = .remoteCfgCopy → ok = true

variable (d info) in
/-- Tasks that call functions of `gw_cfg.c`. -/
abbrev gwCfgTasks : System (RecursiveMutex.State Globals AllocSite) (Label CfgCall) :=
  sys (CfgCall.prog d info)

theorem CfgCall.closes_of_allocated (c : CfgCall) :
    (c.prog d info).Closes RemoteCfgAllocated 0 := by
  by_cases hc : c = .getRemoteCfgCopy
  · subst hc
    exact (gwCfgGetRemoteCfgCopy_closes fun _ hok => hok rfl).void
  · exact CfgCall.closes hc

theorem gwCfgGetRemoteCfgCopy_run_false {ok : AllocSite → Bool} (hok : ok .remoteCfgCopy = false)
    (g : Globals) (depth : Nat) :
    gwCfgGetRemoteCfgCopy.void.run ok g depth = some ((), g, depth + 1) := by
  show Prog.run ok (Prog.void (if ok .remoteCfgCopy then _ else _)) g (depth + 1) = _
  rw [hok]
  rfl

/-- **The mutex is balanced as long as `gw_cfg_get_remote_cfg_copy` gets its memory.**  A call
leaves the mutex as often held as before, whatever its allocations do, exactly if it is not this
one with a failed allocation; and in a run in which that allocation never fails every task that
locks the mutex gets it. -/
theorem gwCfgMutex_balanced_iff (d : GwCfg) (info : GwCfgDeviceInfo) :
    (∀ (c : CfgCall) (ok : AllocSite → Bool) (g : Globals) (depth : Nat),
      (∃ g', (c.prog d info).run ok g depth = some ((), g', depth)) ↔
        (c = .getRemoteCfgCopy → ok .remoteCfgCopy = true)) ∧
    ∀ s, (gwCfgTasks d info).ReachableVia (AllowedStep RemoteCfgAllocated) s → ∀ u,
      LockReturns RemoteCfgAllocated (CfgCall.prog d info) u s := by
  refine ⟨fun c ok g depth => ⟨?_, fun hmem => ?_⟩, fun s hs u => ?_⟩
  · rintro ⟨g', hrun⟩ rfl
    by_contra hok
    rw [Bool.not_eq_true] at hok
    have hfail := hrun.symm.trans (gwCfgGetRemoteCfgCopy_run_false hok g depth)
    simp only [Option.some.injEq, Prod.mk.injEq] at hfail
    omega
  · have hclose : (c.prog d info).Closes (fun site b => ok site = b) 0 := by
      by_cases hc : c = .getRemoteCfgCopy
      · subst hc
        exact (gwCfgGetRemoteCfgCopy_closes fun b hb => hb.symm.trans (hmem rfl)).void
      · exact CfgCall.closes hc
    obtain ⟨_, g', hrun⟩ := Prog.Closes.run_eq (fun _ => rfl) hclose g depth
    exact ⟨g', hrun⟩
  · exact lockReturns_of_closes CfgCall.closes_of_allocated hs u

end model

open Sample

theorem param_default : ∃ d, gwCfgDefaultInit param = some d :=
  Option.isSome_iff_exists.mp (by decide +kernel)

def cfgDeviceInfo : GwCfgDeviceInfo where
  wifiAp := "Configure Ruuvi Gateway EEFF".toList
  hostname := "RuuviGatewayEEFF".toList
  esp32FwVer := deviceInfo.esp32FwVer
  nrf52FwVer := deviceInfo.nrf52FwVer
  nrf52MacAddr := deviceInfo.nrf52MacAddr
  nrf52DeviceId := "11:22:33:44:55:66:77:88".toList
  esp32MacAddrWifi := "AA:BB:CC:DD:EE:00".toList
  esp32MacAddrEth := "AA:BB:CC:DD:EE:03".toList

/-- The variables before `gw_cfg_init`. -/
def globalsOf (d : GwCfg) : Globals where
  store := { cfg := toStore d, isEmpty := true }
  deviceInfo := cfgDeviceInfo
  ready := false
  hasCallback := false
  notices := []

/-- No task has called a function yet. -/
def idle (d : GwCfg) : RecursiveMutex.State Globals AllocSite where
  shared := globalsOf d
  owner := none
  task _ := none

/-- A task holds the mutex in `gw_cfg_get_remote_cfg_copy`, and frees it for another one. -/
theorem remoteCfgCopy_frees_mutex :
    ∃ (d : GwCfg) (s : RecursiveMutex.State Globals AllocSite), s.owner = some (0, 0) ∧
      LockReturns RemoteCfgAllocated (CfgCall.prog d cfgDeviceInfo) 1 s := by
  obtain ⟨d, -⟩ := param_default
  have hinit : (gwCfgTasks d cfgDeviceInfo).ReachableVia (AllowedStep RemoteCfgAllocated)
    (idle d) := .init ⟨rfl, fun _ => rfl⟩
  have hcall := hinit.step (a := .call 0 .getRemoteCfgCopy) (by trivial) rfl
  have hlock := hcall.step (a := .step 0 true)
    (by intro site k h; simp [CfgCall.prog, gwCfgGetRemoteCfgCopy, Prog.void] at h) rfl
  exact ⟨d, _, rfl, (gwCfgMutex_balanced_iff d cfgDeviceInfo).2 _ hlock 1⟩

/-- Without memory the task returns with the mutex held, and nobody else ever gets it. -/
theorem remoteCfgCopy_keeps_mutex :
    ∃ (d : GwCfg) (s : RecursiveMutex.State Globals AllocSite),
      (gwCfgTasks d cfgDeviceInfo).Reachable s ∧ s.task 0 = none ∧
      gwCfgGetRemoteCfgCopy.run (fun _ => false) s.shared 0 = some (none, s.shared, 1) ∧
      ∀ l s', (gwCfgTasks d cfgDeviceInfo).run s l = some s' → ∀ u, u ≠ 0 →
        lockBy u s'.owner = none := by
  obtain ⟨d, -⟩ := param_default
  have hinit : (gwCfgTasks d cfgDeviceInfo).init (idle d) := ⟨rfl, fun _ => rfl⟩
  obtain ⟨s, hs, htest⟩ := System.exists_reachable_of_run hinit
    [.call 0 .getRemoteCfgCopy, .step 0 true, .step 0 false, .step 0 true]
    (fun s => s.owner == some (0, 0) && (s.task 0).isNone) rfl
  simp only [Bool.and_eq_true, beq_iff_eq, Option.isNone_iff_eq_none] at htest
  refine ⟨d, s, hs, htest.2, rfl, fun l s' hrun u hu => ?_⟩
  refine Kept.lockBy_eq_none CfgCall.stays l ⟨0, ?_, fun p hp => ?_⟩ hrun hu
  · rw [htest.1]
    decide
  · exact absurd (htest.2.symm.trans hp) (by simp)

end GwCfgJson
end RuuviGateway
