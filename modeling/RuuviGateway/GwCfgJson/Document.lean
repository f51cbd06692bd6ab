import RuuviGateway.GwCfgJson.Generate

/-!
# What a generated document holds

The names of the items that the sections add are distinct, up to the case of their letters, so
`cJSON_GetObjectItem` finds each of them.  The names are listed here section by section, for
the text that is saved and for the one that the UI is given; a section adds some of its names,
by the types of authorization that it has.
-/

namespace RuuviGateway
namespace GwCfgJson

open CJson CString

/-! ## The names -/

/-- Names that are not used in the text for the UI. -/
def namesUnlessHidden (hide : Bool) (ns : List String) : List String := if hide then [] else ns

/-- The names of `gw_cfg_json_add_items_remote`. -/
def remoteNames (hide : Bool) : List String :=
  ["remote_cfg_use", "remote_cfg_url", "remote_cfg_auth_type", "remote_cfg_auth_basic_user"] ++
    namesUnlessHidden hide ["remote_cfg_auth_basic_pass", "remote_cfg_auth_bearer_token",
      "remote_cfg_auth_token", "remote_cfg_auth_apikey"] ++
    ["remote_cfg_use_ssl_client_cert", "remote_cfg_use_ssl_server_cert",
      "remote_cfg_refresh_interval_minutes"]

/-- The names of `gw_cfg_json_add_items_http`. -/
def httpNames (hide : Bool) : List String :=
  ["use_http_ruuvi", "use_http", "http_url", "http_period", "http_data_format", "http_auth",
    "http_user"] ++
    namesUnlessHidden hide ["http_pass", "http_bearer_token", "http_api_key"] ++
    ["http_use_ssl_client_cert", "http_use_ssl_server_cert", "http_use_extra_http_path",
      "http_use_extra_http_query", "http_use_extra_http_headers"]

/-- The names of `gw_cfg_json_add_items_lan_auth`. -/
def lanAuthNames (hide : Bool) : List String :=
  ["lan_auth_type", "lan_auth_user"] ++ namesUnlessHidden hide ["lan_auth_pass"] ++
    if hide then ["lan_auth_api_key_use", "lan_auth_api_key_rw_use"]
    else ["lan_auth_api_key", "lan_auth_api_key_rw"]

/-- The names before the remote configuration. -/
def networkNames : List String :=
  ["wifi_sta_config", "wifi_ap_config", "use_eth", "eth_dhcp", "eth_static_ip", "eth_netmask",
    "eth_gw", "eth_dns1", "eth_dns2"]

/-- The names of `gw_cfg_json_add_items_http_stat` and `gw_cfg_json_add_items_mqtt`. -/
def statMqttNames (hide : Bool) : List String :=
  ["use_http_stat", "http_stat_url", "http_stat_user"] ++
    namesUnlessHidden hide ["http_stat_pass"] ++
    ["http_stat_use_ssl_client_cert", "http_stat_use_ssl_server_cert"] ++
    ["use_mqtt", "mqtt_disable_retained_messages", "mqtt_transport", "mqtt_data_format",
      "mqtt_server", "mqtt_port", "mqtt_sending_interval", "mqtt_prefix", "mqtt_client_id",
      "mqtt_user"] ++
    namesUnlessHidden hide ["mqtt_pass"] ++
    ["mqtt_use_ssl_client_cert", "mqtt_use_ssl_server_cert"]

/-- The names after LAN authorization. -/
def otherNames : List String :=
  ["auto_update_cycle", "auto_update_weekdays_bitmask", "auto_update_interval_from",
    "auto_update_interval_to", "auto_update_tz_offset_hours", "ntp_use", "ntp_use_dhcp",
    "ntp_server1", "ntp_server2", "ntp_server3", "ntp_server4", "company_id",
    "company_use_filtering", "scan_coded_phy", "scan_1mbit_phy", "scan_2mbit_phy",
    "scan_channel_37", "scan_channel_38", "scan_channel_39", "scan_default",
    "scan_filter_allow_listed", "scan_filter_list", "coordinates", "fw_update_url"]

/-- The names of `gw_cfg_json_add_items_device_info`. -/
def deviceInfoNames : List String := ["fw_ver", "nrf52_fw_ver", "gw_mac", "storage"]

/-- All names that `gw_cfg_json_add_items` may use. -/
def itemNames (hide : Bool) : List String :=
  networkNames ++ remoteNames hide ++ httpNames hide ++ statMqttNames hide ++
    lanAuthNames hide ++ otherNames

theorem itemNames_nodup (hide : Bool) :
    ((deviceInfoNames ++ itemNames hide).map foldCase).Nodup := by
  cases hide <;> decide +kernel

/-! ## The names that are used -/

theorem names_remoteAuth_sublist (hide : Bool) (authType : HttpAuthType) (auth : HttpAuth) :
    List.Sublist (names (gwCfgJsonAddItemsRemoteAuth hide authType auth))
      (["remote_cfg_auth_type", "remote_cfg_auth_basic_user"] ++
        namesUnlessHidden hide ["remote_cfg_auth_basic_pass", "remote_cfg_auth_bearer_token",
          "remote_cfg_auth_token", "remote_cfg_auth_apikey"]) := by
  cases hide <;> cases authType <;> simp [gwCfgJsonAddItemsRemoteAuth, unlessHidden,
    namesUnlessHidden]

theorem names_remote_sublist (hide : Bool) (r : Remote) :
    List.Sublist (names (gwCfgJsonAddItemsRemote hide r)) (remoteNames hide) := by
  simp only [gwCfgJsonAddItemsRemote, names_append]
  exact ((List.Sublist.refl ["remote_cfg_use", "remote_cfg_url"]).append
    (names_remoteAuth_sublist hide r.authType r.auth)).append (List.Sublist.refl _)

theorem names_httpAuth_sublist (hide : Bool) (authType : HttpAuthType) (auth : HttpAuth) :
    List.Sublist (names (gwCfgJsonAddItemsHttpCustomAuth hide authType auth))
      (["http_auth", "http_user"] ++
        namesUnlessHidden hide ["http_pass", "http_bearer_token", "http_api_key"]) := by
  cases hide <;> cases authType <;> simp [gwCfgJsonAddItemsHttpCustomAuth, unlessHidden,
    namesUnlessHidden]

theorem names_httpItems_sublist (hide useHttpRuuvi useHttp : Bool) (h : Http) :
    List.Sublist (names (httpItems hide useHttpRuuvi useHttp h)) (httpNames hide) := by
  simp only [httpItems, gwCfgJsonAddItemsHttpCustomParams, names_append]
  exact (List.Sublist.refl ["use_http_ruuvi", "use_http"]).append
    (((List.Sublist.refl ["http_url", "http_period", "http_data_format"]).append
      (names_httpAuth_sublist hide h.authType h.auth)).append (List.Sublist.refl _))

theorem names_http_sublist (hide : Bool) (dflt h : Http) :
    List.Sublist (names (gwCfgJsonAddItemsHttp hide dflt h)) (httpNames hide) := by
  unfold gwCfgJsonAddItemsHttp
  split <;> exact names_httpItems_sublist hide _ _ _

theorem names_httpStat_append_mqtt (hide : Bool) (s : HttpStat) (m : Mqtt) :
    names (gwCfgJsonAddItemsHttpStat hide s) ++ names (gwCfgJsonAddItemsMqtt hide m) =
      statMqttNames hide := by
  cases hide <;> rfl

section cfg

variable [Components]

theorem names_lanAuth_sublist (hide : Bool) (dflt l : LanAuth) :
    List.Sublist (names (gwCfgJsonAddItemsLanAuth hide dflt l)) (lanAuthNames hide) := by
  cases hide <;> cases hp : l.lanAuthType.hasPassword <;>
    simp [gwCfgJsonAddItemsLanAuth, lanAuthNames, namesUnlessHidden, hp]

theorem names_items_sublist (hide : Bool) (dflt : Ruuvi) (c : GwCfg) :
    List.Sublist (names (gwCfgJsonAddItems hide dflt c)) (itemNames hide) := by
  have hnet : names (gwCfgJsonAddItemsWifi hide c.wifiAp c.wifiSta ++ gwCfgJsonAddItemsEth c.eth) =
      networkNames := rfl
  have hother : names (gwCfgJsonAddItemsAutoUpdate c.ruuvi.autoUpdate ++
      gwCfgJsonAddItemsNtp c.ruuvi.ntp ++ gwCfgJsonAddItemsFilter c.ruuvi.filter ++
      gwCfgJsonAddItemsScan c.ruuvi.scan ++ gwCfgJsonAddItemsScanFilter c.ruuvi.scanFilter ++
      [("coordinates", Buf.json c.ruuvi.coordinates),
        ("fw_update_url", Buf.json c.ruuvi.fwUpdateUrl)]) = otherNames := rfl
  have hall : names (gwCfgJsonAddItems hide dflt c) =
      networkNames ++ names (gwCfgJsonAddItemsRemote hide c.ruuvi.remote) ++
        names (gwCfgJsonAddItemsHttp hide dflt.http c.ruuvi.http) ++ statMqttNames hide ++
        names (gwCfgJsonAddItemsLanAuth hide dflt.lanAuth c.ruuvi.lanAuth) ++ otherNames := by
    rw [← hnet, ← hother, ← names_httpStat_append_mqtt hide c.ruuvi.httpStat c.ruuvi.mqtt]
    simp only [gwCfgJsonAddItems, names_append, List.append_assoc]
  rw [hall]
  exact (((((List.Sublist.refl _).append (names_remote_sublist hide _)).append
    (names_http_sublist hide _ _)).append (List.Sublist.refl _)).append
    (names_lanAuth_sublist hide _ _)).append (List.Sublist.refl _)

/-! ## The documents -/

/-- **The saved document has its members.** -/
theorem has_saving (dflt : Ruuvi) (c : GwCfg) :
    Has (gwCfgJsonGenerateForSaving dflt c) (gwCfgJsonAddItems false dflt c) := by
  refine has_object (List.Nodup.sublist ?_ (itemNames_nodup false))
  exact ((names_items_sublist false dflt c).trans (List.sublist_append_right _ _)).map _

theorem names_ui_sublist (dflt : Ruuvi) (d : DeviceInfo) (c : GwCfg) :
    List.Sublist (names (gwCfgJsonAddItemsDeviceInfo d ++ gwCfgJsonAddItems true dflt c))
      (deviceInfoNames ++ itemNames true) := by
  rw [names_append]
  exact (List.Sublist.refl deviceInfoNames).append (names_items_sublist true dflt c)

/-- **The document for the UI has its members.** -/
theorem has_ui (dflt : Ruuvi) (d : DeviceInfo) (c : GwCfg) :
    Has (gwCfgJsonGenerateForUiClient dflt d c) (gwCfgJsonAddItems true dflt c) :=
  (has_object (List.Nodup.sublist ((names_ui_sublist dflt d c).map _)
    (itemNames_nodup true))).right

/-- A name that is not among those of the saved text is not found in it. -/
theorem absent_saving (dflt : Ruuvi) (c : GwCfg) {name : String}
    (h : foldCase name ∉ (itemNames false).map foldCase) :
    getObjectItem (gwCfgJsonGenerateForSaving dflt c) name = none :=
  getObjectItem_eq_none fun hmem => h (((names_items_sublist false dflt c).map _).subset hmem)

/-- A name that is not among those of the text for the UI is not found in it. -/
theorem absent_ui (dflt : Ruuvi) (d : DeviceInfo) (c : GwCfg) {name : String}
    (h : foldCase name ∉ (deviceInfoNames ++ itemNames true).map foldCase) :
    getObjectItem (gwCfgJsonGenerateForUiClient dflt d c) name = none :=
  getObjectItem_eq_none fun hmem => h (((names_ui_sublist dflt d c).map _).subset hmem)

end cfg

end GwCfgJson
end RuuviGateway
